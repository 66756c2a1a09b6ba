import CriticalCss.Proofs.Syntax.Numbers

/-! A token that is written is scanned as itself wherever it stops before what follows. What it has
to stop before depends on the kind of the token: names before what continues a name, numbers before
what continues a number or gives it a unit, and most literals before nothing.
-/

namespace CriticalCss.Syntax

--------------------------------------------------------------------------------
-- Tokens as they are written
--------------------------------------------------------------------------------

/-- The text of a token. -/
def Token.text : Token → List Char
  | .atom found => writeAtom found
  | .function name => writeIdent name ++ ['(']
  | .opening bracket => [openingChar bracket]
  | .closing bracket => [closingChar bracket]

/-- A name of at least one character, none of which is the null character. -/
def IsName (name : List Char) : Prop :=
  name ≠ [] ∧ '\x00' ∉ name

/-- A character that is a token of its own unless something behind it makes it another one. -/
def isMark (c : Char) : Bool :=
  !isSpace c && !isNameStart c && !c.isDigit && (bracketToken? c).isNone && c != '"' && c != '\''
    && c != '\x00' && c != '\r' && c != '\x0c'

/-- The literals of more than one character. -/
def longLiterals : List (List Char) :=
  ["<!--", "-->", "||", "~=", "|=", "^=", "$=", "*="].map String.toList

/-- Could no identifier start with the name of a hash? It starts with a digit then, or is a hyphen
alone or in front of a digit. -/
def isOnlyHash : List Char → Bool
  | ['-'] => true
  | '-' :: c :: _ => c.isDigit
  | c :: _ => c.isDigit
  | [] => false

/-- A token that reading can give. -/
def Token.WellFormed : Token → Prop
  | .atom (.whitespace text) => text ≠ [] ∧ ∀ c ∈ text, isSpace c = true
  | .atom (.literal text) => (∃ c, text = [c] ∧ isMark c = true) ∨ text ∈ longLiterals
  | .atom (.ident name) => IsName name
  | .atom (.atKeyword name) => IsName name
  | .atom (.hash name isIdent) => IsName name ∧ (isIdent = false → isOnlyHash name = true)
  | .atom (.string value _) => '\x00' ∉ value
  | .atom (.url value _) => '\x00' ∉ value
  | .atom (.unicodeRange first last) => first < 16 ^ 6 ∧ last < 16 ^ 6
  | .atom (.number text) => IsNumber text
  | .atom (.percentage text) => IsNumber text
  | .atom (.dimension text unit) => IsNumber text ∧ IsName unit
  | .atom (.flaw fault) => ∀ bracket, fault ≠ .unmatched bracket
  | .function name => IsName name
  | .opening _ | .closing _ => True

/-- Is the token one that can be read back from its text? Strings and urls that the text ended in
are not, nor is what stands for a broken string; a url must hold no control, a backslash must not
stand alone, and a unit must not look like an exponent. -/
def Token.isLegible : Token → Bool
  | .atom (.literal text) => text != ['\\']
  | .atom (.string _ closed) => closed
  | .atom (.url value closed) => closed && value.all isUrlChar
  | .atom (.dimension _ unit) =>
    exponentLength (writeUnit unit) == 0 && (readName (writeUnit unit)).1 == unit
  | .atom (.flaw fault) => fault == .badUrl
  | _ => true

/-- Is the literal of one character left alone by the text behind it? -/
def markStops (c : Char) (after : List Char) : Bool :=
  !startsIdent (c :: after) && numberLength (c :: after) == 0
    && !"-->".toList.isPrefixOf (c :: after) && !(c == '@' && startsIdent after)
    && !(c == '#' && !endsName after) && !(c == '/' && after.head? == some '*')
    && scanLiteral c after == ([.atom (.literal [c])], 1)

/-- Does the token end before the text, given that this stands behind it? -/
def Token.stops (after : List Char) : Token → Bool
  | .atom (.whitespace _) => endsRun isSpace after
  | .atom (.literal [c]) => markStops c after
  | .atom (.ident name) =>
    endsName after && after.head? != some '('
      && !startsUnicodeRange (writeIdent name ++ after)
      && !"-->".toList.isPrefixOf (writeIdent name ++ after)
  | .atom (.atKeyword _) => endsName after
  | .atom (.hash _ _) => endsName after
  | .atom (.unicodeRange _ _) => endsRange after
  | .atom (.number _) => endsNumber after && !startsIdent after && after.head? != some '%'
  | .atom (.dimension _ _) => endsName after
  | .function name => lowerAscii name != "url".toList || startsQuoted after
  | _ => true

--------------------------------------------------------------------------------
-- Names, functions and urls
--------------------------------------------------------------------------------

section Scan

variable {c : Char} {rest : List Char}

theorem startsEscape_of_head (noBackslash : c ≠ '\\') : startsEscape (c :: rest) = false := by
  unfold startsEscape
  split
  · rfl
  · rename_i backslash
    cases backslash
    exact absurd rfl noBackslash
  · rfl

theorem isSpace_of_startsIdent (starts : startsIdent (c :: rest) = true) : isSpace c = false := by
  rw [← Bool.not_eq_true, isSpace_iff]
  intro space
  have noStart : isNameStart c = false := by
    rw [← Bool.not_eq_true, isNameStart_iff]
    omega
  have noHyphen : c ≠ '-' := by
    rintro rfl
    exact absurd space (by decide)
  have noBackslash : c ≠ '\\' := by
    rintro rfl
    exact absurd space (by decide)
  unfold startsIdent at starts
  split at starts
  · cases starts
  · rename_i hyphen
    cases hyphen
    exact noHyphen rfl
  · rename_i other
    cases other
    rw [noStart, startsEscape_of_head noBackslash] at starts
    cases starts

/-- Where an identifier starts, a name is scanned, unless a range of code points or the end of a
comment starts there too. -/
theorem scan_of_startsIdent (starts : startsIdent (c :: rest) = true)
    (noRange : startsUnicodeRange (c :: rest) = false)
    (noEnd : "-->".toList.isPrefixOf (c :: rest) = false)
    : scan c rest = scanName (c :: rest) := by
  unfold scan
  simp only [isSpace_of_startsIdent starts, noRange, noEnd, starts, Bool.false_eq_true, if_false,
    if_true]

/-- Names that are written hold no plus sign and no greater-than sign but behind a backslash. -/
theorem writeName_head (name : List Char) {d : Char} {after : List Char} (noPart : isNamePart d = false)
    (head : (writeName name ++ after).head? = some d)
    : d = '\\' ∨ name = [] ∧ after.head? = some d := by
  cases name with
  | nil => exact Or.inr ⟨rfl, by simpa [writeName] using head⟩
  | cons c rest =>
    refine Or.inl ?_
    simp only [writeName, List.flatMap_cons, List.append_assoc] at head
    unfold nameChar at head
    split at head
    · rename_i part
      simp only [List.singleton_append, List.head?_cons, Option.some.injEq] at head
      rw [head] at part
      rw [part] at noPart
      cases noPart
    · split at head
      · simpa [hexEscape] using head.symm
      · simpa using head.symm

/-- What is written for the first character of a name is that character, if it can start a name,
and otherwise begins with a backslash. -/
theorem identStartChar_cases (c : Char)
    : isNameStart c = true ∧ identStartChar c = [c] ∨ ∃ more, identStartChar c = '\\' :: more := by
  unfold identStartChar
  split
  · rename_i start
    exact Or.inl ⟨start, rfl⟩
  · split
    · exact Or.inr ⟨_, rfl⟩
    · exact Or.inr ⟨_, rfl⟩

/-- What is written for an identifier starts with a hyphen, a backslash, or its own first
character, which can start a name then. -/
theorem writeIdent_cases {name : List Char} (filled : name ≠ [])
    : (∃ more, writeIdent name = '-' :: more)
      ∨ (∃ more, writeIdent name = '\\' :: more)
      ∨ ∃ c more,
          name = c :: more ∧ isNameStart c = true ∧ writeIdent name = c :: writeName more := by
  unfold writeIdent
  split
  · exact Or.inr (Or.inl ⟨_, rfl⟩)
  · exact Or.inl ⟨_, rfl⟩
  · exact Or.inl ⟨_, rfl⟩
  · rename_i c rest _ _ _
    rcases identStartChar_cases c with ⟨start, written⟩ | ⟨more, written⟩
    · exact Or.inr (Or.inr ⟨c, rest, rfl, start, by rw [written, List.singleton_append]⟩)
    · exact Or.inr (Or.inl ⟨_, by rw [written, List.cons_append]⟩)
  · exact absurd rfl filled

/-- A name that is written starts no range of code points, but for the letter of ranges in front of
a plus sign. -/
theorem startsUnicodeRange_writeIdent {name after : List Char} (filled : name ≠ [])
    (apart : after.head? ≠ some '+' ∨ lowerAscii name ≠ ['u'])
    : startsUnicodeRange (writeIdent name ++ after) = false := by
  have other {d : Char} (more : List Char) (noU : d ≠ 'u' ∧ d ≠ 'U')
      : startsUnicodeRange (d :: more) = false := by
    unfold startsUnicodeRange
    split
    · rename_i same
      cases same
      simp [noU]
    · rfl
  rcases writeIdent_cases filled with ⟨_, written⟩ | ⟨_, written⟩ | ⟨d, rest, named, _, written⟩
  · rw [written]
    exact other _ (by decide)
  · rw [written]
    exact other _ (by decide)
  · rw [written, List.cons_append]
    by_cases plus : (writeName rest ++ after).head? = some '+'
    · rcases writeName_head rest (by decide) plus with wrong | ⟨rfl, found⟩
      · exact absurd wrong (by decide)
      · have noU := apart.resolve_left (not_not_intro found)
        rw [named] at noU
        refine other _ ⟨?_, ?_⟩
        · rintro rfl
          exact noU (by decide)
        · rintro rfl
          exact noU (by decide)
    · unfold startsUnicodeRange
      split
      · rename_i same
        rw [List.cons.injEq] at same
        exact absurd (congrArg List.head? same.2) plus
      · rfl

/-- A name that is written starts no end of a comment, but for two hyphens in front of a
greater-than sign. -/
theorem isPrefixOf_writeIdent {name after : List Char} (filled : name ≠ [])
    (apart : after.head? ≠ some '>' ∨ name ≠ ['-', '-'])
    : "-->".toList.isPrefixOf (writeIdent name ++ after) = false := by
  have listed : "-->".toList = ['-', '-', '>'] := by decide
  have other {d : Char} (more : List Char) (noHyphen : d ≠ '-')
      : ['-', '-', '>'].isPrefixOf (d :: more) = false := by
    simp [List.isPrefixOf, Ne.symm noHyphen]
  have second {d : Char} (more : List Char) (noHyphen : d ≠ '-')
      : ['-', '-', '>'].isPrefixOf ('-' :: d :: more) = false := by
    simp [List.isPrefixOf, Ne.symm noHyphen]
  have start {d : Char} (start : isNameStart d = true) : d ≠ '-' := by
    rintro rfl
    exact absurd start (by decide)
  rw [listed]
  unfold writeIdent
  split
  · exact other _ (by decide)
  · rename_i rest
    cases found : (writeName rest ++ after) with
    | nil => simp [List.isPrefixOf, found]
    | cons d more =>
      have noEnd : d ≠ '>' := by
        rintro rfl
        rcases writeName_head rest (d := '>') (by decide) (congrArg List.head? found)
          with wrong | ⟨rfl, head⟩
        · exact absurd wrong (by decide)
        · exact apart.elim (fun noEnd => noEnd head) fun longer => longer rfl
      simp [List.isPrefixOf, found, Ne.symm noEnd]
  · rename_i d rest _
    rcases identStartChar_cases d with ⟨begins, written⟩ | ⟨more, written⟩
    · rw [written]
      exact second _ (start begins)
    · rw [written]
      exact second _ (by decide)
  · rename_i d rest _ _ _
    rcases identStartChar_cases d with ⟨begins, written⟩ | ⟨more, written⟩
    · rw [written]
      exact other _ (start begins)
    · rw [written]
      exact other _ (by decide)
  · exact absurd rfl filled

/-- An identifier is scanned as itself where it stops. -/
theorem scan_ident {name after : List Char} (is : IsName name)
    (stops : (Token.atom (.ident name)).stops after = true)
    (text : writeIdent name ++ after = c :: rest)
    : scan c rest = ([.atom (.ident name)], (writeIdent name).length) := by
  simp only [Token.stops, Bool.and_eq_true, Bool.not_eq_true', bne_iff_ne, ne_eq] at stops
  obtain ⟨⟨⟨ends, noCall⟩, noRange⟩, noEnd⟩ := stops
  have starts := startsIdent_writeIdent is.1 after
  have read := readName_writeIdent ends name
  rw [text] at starts noRange noEnd read
  rw [scan_of_startsIdent starts noRange noEnd, scanName, read]
  simp only
  rw [← text, List.drop_left, if_neg noCall]

/-- A function is scanned as itself; it must not become a url. -/
theorem scan_function {name after : List Char} (is : IsName name)
    (stops : (Token.function name).stops after = true)
    (text : writeIdent name ++ '(' :: after = c :: rest)
    : scan c rest = ([.function name], (writeIdent name).length + 1) := by
  have starts := startsIdent_writeIdent is.1 ('(' :: after)
  have noRange : startsUnicodeRange (writeIdent name ++ '(' :: after) = false :=
    startsUnicodeRange_writeIdent is.1 (Or.inl (by simp))
  have noEnd : "-->".toList.isPrefixOf (writeIdent name ++ '(' :: after) = false :=
    isPrefixOf_writeIdent is.1 (Or.inl (by simp))
  have ends : endsName ('(' :: after) = true := rfl
  have read := readName_writeIdent ends name
  have noUrl : (decide (lowerAscii name = "url".toList) && !startsQuoted after) = false := by
    simp only [Token.stops, Bool.or_eq_true, bne_iff_ne, ne_eq] at stops
    rcases stops with other | quoted
    · rw [decide_eq_false other, Bool.false_and]
    · rw [quoted, Bool.not_true, Bool.and_false]
  rw [text] at starts noRange noEnd read
  rw [scan_of_startsIdent starts noRange noEnd, scanName, read]
  simp only
  rw [← text, List.drop_left]
  simp only [List.head?_cons, if_true, List.drop_succ_cons, List.drop_zero, noUrl,
    Bool.false_eq_true, if_false]

/-- What is written for a url holds no blank and no quote at its start. -/
theorem urlChars_head (value after : List Char)
    : (value.flatMap urlChar ++ ')' :: after).takeWhile isSpace = []
      ∧ startsQuoted (value.flatMap urlChar ++ ')' :: after) = false := by
  have plain {d : Char} (more : List Char) (noSpace : isSpace d = false) (noQuote : d ≠ '"' ∧ d ≠ '\'')
      : (d :: more).takeWhile isSpace = [] ∧ startsQuoted (d :: more) = false := by
    simp [startsQuoted, noSpace, noQuote]
  cases value with
  | nil => exact plain _ (by decide) (by decide)
  | cons d more =>
    rw [List.flatMap_cons, List.append_assoc]
    unfold urlChar
    split
    · exact plain _ (by decide) (by decide)
    · rename_i noMark
      split
      · exact plain _ (by decide) (by decide)
      · rename_i noCode
        simp only [Bool.or_eq_true, decide_eq_true_eq, or_assoc, not_or] at noMark noCode
        refine plain _ ?_ ⟨noMark.2.1, noMark.1⟩
        simp only [isLineEnd_iff, char_eq_iff] at noCode noMark
        rw [← Bool.not_eq_true, isSpace_iff]
        rintro (space | space | space)
        · exact noMark.2.2.2.1 space
        · exact noCode.2 (Or.inl space)
        · exact noCode.1 space

/-- An unquoted url is scanned as itself whatever follows. -/
theorem scan_url {value after : List Char} (writable : ∀ d ∈ value, isUrlChar d = true)
    : scan 'u' ('r' :: 'l' :: '(' :: (value.flatMap urlChar ++ ')' :: after))
      = ([.atom (.url value true)], (value.flatMap urlChar).length + 5) := by
  have ends : endsName ('(' :: (value.flatMap urlChar ++ ')' :: after)) = true := rfl
  have read : readName ('u' :: 'r' :: 'l' :: '(' :: (value.flatMap urlChar ++ ')' :: after))
      = ("url".toList, 3) :=
    readName_writeIdent ends "url".toList
  obtain ⟨noBlank, noQuote⟩ := urlChars_head value after
  rw [scan_of_startsIdent rfl rfl rfl, scanName, read]
  simp only [List.drop_succ_cons, List.drop_zero, List.head?_cons, if_true, noQuote, noBlank,
    List.length_nil, readUrl_written writable after]
  rw [if_pos (by decide)]
  simp [urlTokens]
  omega

/-- What stands for a url that could not be read cannot be read either, with the same end. -/
theorem scan_badUrl (after : List Char)
    : scan 'u' ('r' :: 'l' :: '(' :: '[' :: 'b' :: 'a' :: 'd' :: ' ' :: 'u' :: 'r' :: 'l' :: ']' :: ')'
          :: after)
      = ([.atom (.flaw .badUrl)], 14) := by
  generalize inside : '[' :: 'b' :: 'a' :: 'd' :: ' ' :: 'u' :: 'r' :: 'l' :: ']' :: ')' :: after = text
  have ends : endsName ('(' :: text) = true := rfl
  have read : readName ('u' :: 'r' :: 'l' :: '(' :: text) = ("url".toList, 3) :=
    readName_writeIdent ends "url".toList
  have broken : readUrl text = (['[', 'b', 'a', 'd'], .broken, 10) := by
    simp [← inside, readUrl, isSpace, startsEscape, breaksUrl, closeUrl, badUrlLength]
  have noBlank : text.takeWhile isSpace = [] := by rw [← inside]; rfl
  have noQuote : startsQuoted text = false := by rw [← inside]; rfl
  rw [scan_of_startsIdent rfl rfl rfl, scanName, read]
  simp only [List.drop_succ_cons, List.drop_zero, List.head?_cons, if_true, noQuote, noBlank,
    List.length_nil, broken]
  rw [if_pos (by decide)]
  rfl

--------------------------------------------------------------------------------
-- Other tokens
--------------------------------------------------------------------------------

theorem startsUnicodeRange_of_head (noU : c ≠ 'u' ∧ c ≠ 'U')
    : startsUnicodeRange (c :: rest) = false := by
  unfold startsUnicodeRange
  split
  · rename_i same
    cases same
    simp [noU]
  · rfl

/-- Where no number can start, none is found. -/
theorem numberLength_of_head (noDigit : c.isDigit = false) (noSign : c ≠ '+' ∧ c ≠ '-')
    (noPoint : c ≠ '.') : numberLength (c :: rest) = 0 := by
  have none : leadingDigits (c :: rest) = [] := by simp [leadingDigits, noDigit]
  have mantissa : mantissaLength (c :: rest) = 0 := by
    unfold mantissaLength
    simp only [none, List.length_nil, List.drop_zero]
    split
    · rename_i point
      cases point
      exact absurd rfl noPoint
    · rfl
  have sign : signLength (c :: rest) = 0 := by simp [signLength, noSign]
  rw [numberLength_eq, sign, List.drop_zero, if_pos mantissa]

/-- Where nothing starts that takes several characters by its kind, the first character decides. -/
theorem scan_of_mark (noSpace : isSpace c = false) (noU : c ≠ 'u' ∧ c ≠ 'U')
    (noEnd : "-->".toList.isPrefixOf (c :: rest) = false)
    (noIdent : startsIdent (c :: rest) = false) (noNumber : numberLength (c :: rest) = 0)
    : scan c rest
      = if c = '@' || c = '#' then scanMarked c rest
        else if c = '"' || c = '\'' then
          let (value, ending, length) := readString c rest
          (stringTokens value ending, length + 1)
        else if c = '/' && rest.head? = some '*' then ([], commentLength (rest.drop 1) + 2)
        else
          match bracketToken? c with
          | some token => ([token], 1)
          | none => scanLiteral c rest := by
  unfold scan
  refine (if_neg (ne_true_of_eq_false noSpace)).trans ?_
  refine (if_neg (ne_true_of_eq_false (startsUnicodeRange_of_head noU))).trans ?_
  refine (if_neg (ne_true_of_eq_false noEnd)).trans ?_
  refine (if_neg (ne_true_of_eq_false noIdent)).trans ?_
  exact if_neg (not_not_intro noNumber)

/-- A run of whitespace is scanned as itself where it stops. -/
theorem scan_whitespace {blanks after : List Char} (blank : isSpace c = true)
    (all : ∀ d ∈ blanks, isSpace d = true) (stops : endsRun isSpace after = true)
    : scan c (blanks ++ after)
      = ([.atom (.whitespace (c :: blanks))], (c :: blanks).length) := by
  unfold scan
  simp only [blank, if_true, takeWhile_append_of_endsRun all stops, List.length_cons]

/-- A keyword behind an at sign is scanned as itself where its name stops. -/
theorem scan_atKeyword {name after : List Char} (is : IsName name) (ends : endsName after = true)
    : scan '@' (writeIdent name ++ after)
      = ([.atom (.atKeyword name)], (writeIdent name).length + 1) := by
  rw [scan_of_mark (by decide) (by decide) rfl rfl
    (numberLength_of_head (by decide) (by decide) (by decide))]
  simp [scanMarked, startsIdent_writeIdent is.1 after, readName_writeIdent ends]

/-- What is written for a name starts with a character of a name or with an escape. -/
theorem startsName_writeName {name : List Char} (filled : name ≠ []) (after : List Char)
    : ((writeName name ++ after).head?.any isNamePart || startsEscape (writeName name ++ after))
      = true := by
  obtain ⟨d, more, rfl⟩ := List.exists_cons_of_ne_nil filled
  rw [writeName, List.flatMap_cons, List.append_assoc]
  unfold nameChar
  split
  · rename_i part
    simp [part]
  · split
    · rename_i lineEnd
      have coded : isCoded d = true := by simp [isCoded, lineEnd]
      obtain ⟨first, others, written, noLineEnd, _⟩ := hexEscape_eq coded
      simp [written, startsEscape_backslash noLineEnd]
    · rename_i noLineEnd
      have other : d ≠ '\n' := by
        rintro rfl
        exact noLineEnd rfl
      simp [startsEscape_backslash other]

/-- Where an identifier starts, a name does. -/
theorem startsName_of_startsIdent {text : List Char} (starts : startsIdent text = true)
    : (text.head?.any isNamePart || startsEscape text) = true := by
  unfold startsIdent at starts
  split at starts
  · cases starts
  · rfl
  · simp only [Bool.or_eq_true] at starts
    rcases starts with start | escape
    · simp [isNamePart, start]
    · simp [escape]

/-- A hyphen that no name follows starts no identifier. -/
theorem startsIdent_hyphen {after : List Char} (ends : endsName after = true)
    : startsIdent ('-' :: after) = false := by
  simp only [endsName, Bool.and_eq_true, Bool.not_eq_true'] at ends
  cases after with
  | nil => rfl
  | cons d more =>
    have noPart : isNamePart d = false := by simpa using ends.1
    simp only [isNamePart, Bool.or_eq_false_iff] at noPart
    simp [startsIdent, ends.2, noPart]

/-- What is written for the name of a hash that no identifier could start is no identifier. -/
theorem startsIdent_writeName {name after : List Char} (only : isOnlyHash name = true)
    (ends : endsName after = true)
    : startsIdent (writeName name ++ after) = false := by
  have digitStart {d : Char} (digit : d.isDigit = true)
      : isNameStart d = false ∧ d ≠ '-' ∧ d ≠ '\\' ∧ nameChar d = [d] := by
    have code := isDigit_iff.mp digit
    have part : isNamePart d = true := by
      rw [isNamePart_iff]
      exact Or.inr (Or.inl code)
    refine ⟨?_, ?_, ?_, by simp [nameChar, part]⟩
    · rw [← Bool.not_eq_true, isNameStart_iff]
      omega
    · rintro rfl
      exact absurd code (by decide)
    · rintro rfl
      exact absurd code (by decide)
  have hyphen : nameChar '-' = ['-'] := by decide
  unfold isOnlyHash at only
  split at only
  · rw [writeName, List.flatMap_singleton, hyphen, List.singleton_append]
    exact startsIdent_hyphen ends
  · rename_i d more
    obtain ⟨noStart, noHyphen, noBackslash, written⟩ := digitStart only
    simp [writeName, hyphen, written, startsIdent, noStart, noHyphen, startsEscape_of_head noBackslash]
  · rename_i d more _ _
    obtain ⟨noStart, noHyphen, noBackslash, written⟩ := digitStart only
    rw [writeName, List.flatMap_cons, written, List.append_assoc, List.singleton_append]
    unfold startsIdent
    split
    · rfl
    · rename_i same
      cases same
      exact absurd rfl noHyphen
    · rename_i same
      cases same
      simp [noStart, startsEscape_of_head noBackslash]
  · cases only

/-- Behind a number sign a name makes a hash. -/
theorem scanMarked_hash {text : List Char}
    (name : (text.head?.any isNamePart || startsEscape text) = true)
    : scanMarked '#' text
      = ([.atom (.hash (readName text).1 (startsIdent text))], (readName text).2 + 1) := by
  unfold scanMarked
  rw [if_neg (by simp), if_pos (by simpa using name)]

/-- A hash is scanned as itself where its name stops. -/
theorem scan_hash {name after : List Char} {isIdent : Bool} (is : IsName name)
    (only : isIdent = false → isOnlyHash name = true) (ends : endsName after = true)
    : scan '#' ((if isIdent then writeIdent name else writeName name) ++ after)
      = ([.atom (.hash name isIdent)],
          (if isIdent then writeIdent name else writeName name).length + 1) := by
  rw [scan_of_mark (by decide) (by decide) rfl rfl
    (numberLength_of_head (by decide) (by decide) (by decide))]
  cases isIdent with
  | true =>
    have starts := startsIdent_writeIdent is.1 after
    rw [if_pos (by decide), if_pos rfl, scanMarked_hash (startsName_of_startsIdent starts), starts,
      readName_writeIdent ends]
  | false =>
    rw [if_pos (by decide), if_neg (by decide), scanMarked_hash (startsName_writeName is.1 after),
      startsIdent_writeName (only rfl) ends, readName_writeName ends]

/-- A quoted string is scanned as itself whatever follows. -/
theorem scan_string (value after : List Char)
    : scan '"' (value.flatMap stringChar ++ '"' :: after)
      = ([.atom (.string value true)], (value.flatMap stringChar).length + 2) := by
  rw [scan_of_mark (by decide) (by decide) rfl rfl
    (numberLength_of_head (by decide) (by decide) (by decide))]
  simp [readString_written, stringTokens]

/-- A range of code points is scanned as itself where it stops. -/
theorem scan_unicodeRange {first last : Nat} {after : List Char} (lowest : first < 16 ^ 6)
    (highest : last < 16 ^ 6) (ends : endsRange after = true)
    : scan 'U'
          ('+' :: (writeCode first ++ ((if first = last then [] else '-' :: writeCode last) ++ after)))
      = ([.atom (.unicodeRange first last)],
          (writeCode first ++ (if first = last then [] else '-' :: writeCode last)).length + 2) := by
  have noSpace : isSpace 'U' = false := by decide
  have starts
      : startsUnicodeRange
            ('U' :: '+'
              :: (writeCode first ++ ((if first = last then [] else '-' :: writeCode last) ++ after)))
        = true := by
    obtain ⟨d, more, written⟩ := List.exists_cons_of_ne_nil (length_writeCode lowest).2
    have hex := (digitsValue_writeCode first).2 d (by simp [written])
    rw [written]
    simp [startsUnicodeRange, hex]
  unfold scan
  simp only [noSpace, starts, Bool.false_eq_true, if_false, if_true, List.drop_succ_cons,
    List.drop_zero, readUnicodeRange_written lowest highest ends]

--------------------------------------------------------------------------------
-- Numbers
--------------------------------------------------------------------------------

/-- The first character of a number is a digit, a sign or a point; behind a sign comes a digit or a
point. -/
theorem IsNumber.head {number : List Char} (is : IsNumber number)
    : ∃ d more,
        number = d :: more
        ∧ (d.isDigit = true ∨ d = '.'
          ∨ (d = '+' ∨ d = '-')
            ∧ ∃ e others, more = e :: others ∧ (e.isDigit = true ∨ e = '.')) := by
  obtain ⟨sign, mantissa, exponent, rfl, isSign, isMantissa, _⟩ := is
  obtain ⟨e, others, rfl, kind⟩ := isMantissa.head
  rcases isSign with rfl | rfl | rfl
  · exact ⟨e, _, rfl, kind.imp_right Or.inl⟩
  · exact ⟨'+', _, rfl, Or.inr (Or.inr ⟨Or.inl rfl, e, _, rfl, kind⟩)⟩
  · exact ⟨'-', _, rfl, Or.inr (Or.inr ⟨Or.inr rfl, e, _, rfl, kind⟩)⟩

/-- Digits and points start neither blanks nor names. -/
theorem plain_of_digit_or_point {d : Char} (kind : d.isDigit = true ∨ d = '.')
    : isSpace d = false ∧ isNameStart d = false ∧ d ≠ '-' ∧ d ≠ '\\' ∧ d ≠ 'u' ∧ d ≠ 'U' := by
  have code : 48 ≤ d.toNat ∧ d.toNat ≤ 57 ∨ d.toNat = 46 :=
    kind.imp isDigit_iff.mp fun point => by rw [point]; rfl
  have other {e : Char} (far : e.toNat ≠ 46 ∧ (e.toNat < 48 ∨ 57 < e.toNat)) : d ≠ e := by
    rintro rfl
    omega
  refine ⟨?_, ?_, other (by decide), other (by decide), other (by decide), other (by decide)⟩
  · rw [← Bool.not_eq_true, isSpace_iff]
    omega
  · rw [← Bool.not_eq_true, isNameStart_iff]
    omega

/-- A number starts none of the tokens that are looked for before numbers. -/
theorem IsNumber.plain {number after : List Char} (is : IsNumber number)
    (text : number ++ after = c :: rest)
    : isSpace c = false ∧ (c ≠ 'u' ∧ c ≠ 'U') ∧ "-->".toList.isPrefixOf (c :: rest) = false
      ∧ startsIdent (c :: rest) = false := by
  obtain ⟨d, more, rfl, kind⟩ := is.head
  obtain ⟨rfl, rfl⟩ : d = c ∧ more ++ after = rest := by simpa using text
  have listed : "-->".toList = ['-', '-', '>'] := by decide
  rw [listed]
  rcases or_assoc.mpr kind with plain | ⟨sign, e, others, rfl, inner⟩
  · obtain ⟨noSpace, noStart, noHyphen, noBackslash, noU⟩ := plain_of_digit_or_point plain
    refine ⟨noSpace, noU, by simp [List.isPrefixOf, Ne.symm noHyphen], ?_⟩
    unfold startsIdent
    split
    · rfl
    · rename_i same
      cases same
      exact absurd rfl noHyphen
    · rename_i same
      cases same
      rw [noStart, startsEscape_of_head noBackslash]
      rfl
  · obtain ⟨_, noStart, noHyphen, noBackslash, _⟩ := plain_of_digit_or_point inner
    rcases sign with rfl | rfl
    · exact ⟨by decide, by decide, rfl, rfl⟩
    · refine ⟨by decide, by decide, by simp [List.isPrefixOf, Ne.symm noHyphen], ?_⟩
      simp [startsIdent, noStart, noHyphen, startsEscape_of_head noBackslash]

/-- Where a number starts, the token of a number is scanned. -/
theorem scan_of_number {number after : List Char} (is : IsNumber number)
    (found : numberLength (number ++ after) = number.length)
    (text : number ++ after = c :: rest)
    : scan c rest = scanNumber (number ++ after) number.length := by
  obtain ⟨noSpace, noU, noEnd, noIdent⟩ := is.plain text
  obtain ⟨d, more, filled, _⟩ := is.head
  rw [text] at found ⊢
  unfold scan
  simp only [noSpace, startsUnicodeRange_of_head noU, noEnd, noIdent, Bool.false_eq_true, if_false]
  rw [found, if_pos (by simp [filled])]

/-- A number is scanned as itself where it stops. -/
theorem scan_number {number after : List Char} (is : IsNumber number)
    (stops : (Token.atom (.number number)).stops after = true)
    (text : number ++ after = c :: rest)
    : scan c rest = ([.atom (.number number)], number.length) := by
  simp only [Token.stops, Bool.and_eq_true, Bool.not_eq_true', bne_iff_ne, ne_eq] at stops
  obtain ⟨⟨ends, noUnit⟩, noPercent⟩ := stops
  rw [scan_of_number is (numberLength_append is ends) text, scanNumber]
  simp [noUnit, noPercent]

/-- A percentage is scanned as itself whatever follows. -/
theorem scan_percentage {number after : List Char} (is : IsNumber number)
    (text : number ++ '%' :: after = c :: rest)
    : scan c rest = ([.atom (.percentage number)], number.length + 1) := by
  have found : numberLength (number ++ '%' :: after) = number.length := numberLength_append is rfl
  have noUnit : startsIdent ('%' :: after) = false := rfl
  rw [scan_of_number is found text, scanNumber]
  simp [noUnit]

/-- A number does not run into an identifier that does not look like an exponent. -/
theorem endsNumber_of_startsIdent {text : List Char} (starts : startsIdent text = true)
    (noExponent : exponentLength text = 0)
    : endsNumber text = true := by
  have head : ∃ d more, text = d :: more ∧ d.isDigit = false ∧ d ≠ '.' := by
    unfold startsIdent at starts
    split at starts
    · cases starts
    · exact ⟨'-', _, rfl, by decide, by decide⟩
    · rename_i d more _
      refine ⟨d, more, rfl, ?_⟩
      by_cases start : isNameStart d = true
      · have code := isNameStart_iff.mp start
        refine ⟨?_, ?_⟩
        · rw [← Bool.not_eq_true, isDigit_iff]
          omega
        · rintro rfl
          exact absurd start (by decide)
      · have backslash : d = '\\' := by
          rw [Bool.or_eq_true] at starts
          rcases starts with wrong | escape
          · exact absurd wrong start
          · by_cases backslash : d = '\\'
            · exact backslash
            · rw [startsEscape_of_head backslash] at escape
              cases escape
        subst backslash
        exact ⟨by decide, by decide⟩
  obtain ⟨d, more, rfl, noDigit, noPoint⟩ := head
  simp [endsNumber, endsMantissa, endsRun, noDigit, noPoint, noExponent]

theorem exponentLength_of_head (noLetter : c ≠ 'e' ∧ c ≠ 'E') : exponentLength (c :: rest) = 0 := by
  simp [exponentLength, noLetter]

/-- An exponent starts with a letter and a digit or a sign. -/
theorem exponentLength_of_second {d : Char} (noDigit : d.isDigit = false) (noSign : d ≠ '+' ∧ d ≠ '-')
    : exponentLength (c :: d :: rest) = 0 := by
  simp [exponentLength, noSign, leadingDigits, noDigit]

theorem exponentLength_of_digit {d : Char} (letter : c = 'e' ∨ c = 'E') (digit : d.isDigit = true)
    : exponentLength (c :: d :: rest) ≠ 0 := by
  have plain := plain_of_digit_or_point (Or.inl digit)
  have noPlus : d ≠ '+' := by
    rintro rfl
    exact absurd digit (by decide)
  simp [exponentLength, letter, plain, noPlus, leadingDigits, digit]

/-- A unit is written like an identifier, or with an escape for its first letter, which is an e. -/
theorem writeUnit_cases (unit : List Char)
    : writeUnit unit = '\\' :: '6' :: '5' :: ' ' :: writeName (unit.drop 1)
      ∨ writeUnit unit = writeIdent unit
        ∧ ∀ c more, unit = c :: more → c = 'e' ∨ c = 'E' → more ≠ [] ∧ more.head? ≠ some '-' := by
  have listed : "\\65 ".toList = ['\\', '6', '5', ' '] := by decide
  unfold writeUnit
  split
  · split
    · exact Or.inl (by simp [listed, writeName])
    · rename_i noLetter
      refine Or.inr ⟨rfl, fun c more same letter => ?_⟩
      cases same
      exact absurd letter (by simpa using noLetter)
  · split
    · exact Or.inl (by simp [listed])
    · rename_i noLetter
      refine Or.inr ⟨rfl, fun c more same letter => ?_⟩
      cases same
      exact absurd letter (by simpa using noLetter)
  · rename_i noSingle noHyphen
    refine Or.inr ⟨rfl, fun c more same _ => ⟨?_, ?_⟩⟩
    · rintro rfl
      exact noSingle c same
    · intro head
      obtain ⟨others, rfl⟩ : ∃ others, more = '-' :: others := by
        cases more with
        | nil => cases head
        | cons d others => exact ⟨others, by simpa using head⟩
      exact noHyphen c others same

/-- What is written for a character of a name is that character, if it can stand in a name, and
otherwise begins with a backslash. -/
theorem nameChar_cases (c : Char)
    : isNamePart c = true ∧ nameChar c = [c] ∨ ∃ more, nameChar c = '\\' :: more := by
  unfold nameChar
  split
  · rename_i part
    exact Or.inl ⟨part, rfl⟩
  · split
    · exact Or.inr ⟨_, rfl⟩
    · exact Or.inr ⟨_, rfl⟩

/-- A letter with a name behind it, neither a digit nor a hyphen first, looks like no exponent. -/
theorem exponentLength_writeName {name : List Char} (filled : name ≠ [])
    (noHyphen : name.head? ≠ some '-') (letter : c = 'e' ∨ c = 'E')
    (noExponent : exponentLength (c :: writeName name) = 0) (after : List Char)
    : exponentLength (c :: (writeName name ++ after)) = 0 := by
  obtain ⟨d, others, rfl⟩ := List.exists_cons_of_ne_nil filled
  rw [writeName, List.flatMap_cons] at noExponent ⊢
  rcases nameChar_cases d with ⟨part, written⟩ | ⟨more, written⟩
  · rw [written] at noExponent ⊢
    refine exponentLength_of_second ?_ ⟨?_, by simpa using noHyphen⟩
    · rw [← Bool.not_eq_true]
      exact fun digit => exponentLength_of_digit letter digit noExponent
    · rintro rfl
      exact absurd part (by decide)
  · rw [written]
    exact exponentLength_of_second (by decide) (by decide)

/-- What is written for a unit that does not look like an exponent does not do so in front of
anything. -/
theorem exponentLength_writeUnit {unit : List Char} (filled : unit ≠ [])
    (noExponent : exponentLength (writeUnit unit) = 0) (after : List Char)
    : exponentLength (writeUnit unit ++ after) = 0 := by
  rcases writeUnit_cases unit with written | ⟨written, long⟩
  · rw [written]
    exact exponentLength_of_head (by decide)
  · rw [written] at noExponent ⊢
    rcases writeIdent_cases filled with ⟨_, start⟩ | ⟨_, start⟩ | ⟨c, more, same, _, start⟩
    · rw [start]
      exact exponentLength_of_head (by decide)
    · rw [start]
      exact exponentLength_of_head (by decide)
    · rw [start] at noExponent ⊢
      by_cases letter : c = 'e' ∨ c = 'E'
      · obtain ⟨longer, noHyphen⟩ := long c more same letter
        exact exponentLength_writeName longer noHyphen letter noExponent after
      · exact exponentLength_of_head (by simpa using letter)

/-- A unit is read back as far as what is written for it allows, where it stops. -/
theorem readName_writeUnit {unit after : List Char} (ends : endsName after = true)
    : readName (writeUnit unit ++ after)
      = ((readName (writeUnit unit)).1, (writeUnit unit).length) := by
  have coded (text : List Char)
      : readName ('\\' :: '6' :: '5' :: ' ' :: text)
        = ('e' :: (readName text).1, 4 + (readName text).2) := by
    have escape : readEscape ('6' :: (['5', ' '] ++ text)) = ('e', ['5', ' '].length + 1) := rfl
    exact readName_backslash (by decide) escape
  have nothing : endsName [] = true := rfl
  rcases writeUnit_cases unit with written | ⟨written, _⟩
  · have alone := readName_writeName nothing (unit.drop 1)
    rw [List.append_nil] at alone
    rw [written]
    simp only [List.cons_append, coded, readName_writeName ends, alone, List.length_cons]
    refine congrArg (Prod.mk _) ?_
    omega
  · have alone := readName_writeIdent nothing unit
    rw [List.append_nil] at alone
    rw [written, readName_writeIdent ends, alone]

theorem startsIdent_writeUnit {unit : List Char} (filled : unit ≠ []) (after : List Char)
    : startsIdent (writeUnit unit ++ after) = true := by
  rcases writeUnit_cases unit with written | ⟨written, _⟩
  · rw [written]
    rfl
  · rw [written]
    exact startsIdent_writeIdent filled after

/-- A dimension is scanned as itself where its unit stops. -/
theorem scan_dimension {number unit after : List Char} (is : IsNumber number) (named : IsName unit)
    (legible : (Token.atom (.dimension number unit)).isLegible = true)
    (ends : endsName after = true) (text : number ++ (writeUnit unit ++ after) = c :: rest)
    : scan c rest = ([.atom (.dimension number unit)], number.length + (writeUnit unit).length) := by
  simp only [Token.isLegible, Bool.and_eq_true, beq_iff_eq] at legible
  have starts := startsIdent_writeUnit named.1 after
  have noExponent := exponentLength_writeUnit named.1 legible.1 after
  have found := numberLength_append is (endsNumber_of_startsIdent starts noExponent)
  rw [scan_of_number is found text, scanNumber]
  simp [starts, readName_writeUnit ends, legible.2]

end Scan

--------------------------------------------------------------------------------
-- Every token
--------------------------------------------------------------------------------

/-- A bracket is scanned as itself whatever follows. -/
theorem scan_bracket {c : Char} {token : Token} (found : bracketToken? c = some token)
    (rest : List Char)
    : scan c rest = ([token], 1) := by
  have mark (other : c ≠ '@' ∧ c ≠ '#' ∧ c ≠ '"' ∧ c ≠ '\'' ∧ c ≠ '/')
      (noSpace : isSpace c = false) (noU : c ≠ 'u' ∧ c ≠ 'U')
      (noEnd : "-->".toList.isPrefixOf (c :: rest) = false)
      (noIdent : startsIdent (c :: rest) = false) (noNumber : numberLength (c :: rest) = 0)
      : scan c rest = ([token], 1) := by
    rw [scan_of_mark noSpace noU noEnd noIdent noNumber]
    simp [other, found]
  unfold bracketToken? at found
  split at found <;>
    first
      | exact mark (by decide) (by decide) (by decide) rfl rfl
          (numberLength_of_head (by decide) (by decide) (by decide))
      | cases found

/-- A character that is a token of its own is scanned as one where it stops. -/
theorem scan_mark {c : Char} {after : List Char} (is : isMark c = true)
    (stops : markStops c after = true)
    : scan c after = ([.atom (.literal [c])], 1) := by
  simp only [isMark, Bool.and_eq_true, Bool.not_eq_true', bne_iff_ne, ne_eq,
    Option.isNone_iff_eq_none] at is
  obtain ⟨⟨⟨⟨⟨⟨⟨⟨noSpace, noStart⟩, -⟩, noBracket⟩, noQuote⟩, noTick⟩, -⟩, -⟩, -⟩ := is
  simp only [markStops, Bool.and_eq_true, Bool.not_eq_true', Bool.and_eq_false_iff, beq_iff_eq,
    beq_eq_false_iff_ne, ne_eq, Bool.not_eq_false'] at stops
  obtain ⟨⟨⟨⟨⟨⟨noIdent, noNumber⟩, noEnd⟩, noKeyword⟩, noHash⟩, noComment⟩, alone⟩ := stops
  have noU : c ≠ 'u' ∧ c ≠ 'U' := by
    constructor
    · rintro rfl
      exact absurd noStart (by decide)
    · rintro rfl
      exact absurd noStart (by decide)
  have noName : ¬(c = '#' ∧ (after.head?.any isNamePart || startsEscape after) = true) := by
    rintro ⟨rfl, name⟩
    have ends := noHash.resolve_left (by simp)
    simp only [endsName, Bool.and_eq_true, Bool.not_eq_true'] at ends
    simp [ends] at name
  have marked : scanMarked c after = scanLiteral c after := by
    unfold scanMarked
    rw [if_neg (by simpa [Decidable.imp_iff_not_or] using noKeyword), if_neg (by simpa using noName)]
  have noSlash : ¬(c = '/' ∧ after.head? = some '*') := by
    simpa [Decidable.imp_iff_not_or] using noComment
  rw [scan_of_mark noSpace noU noEnd noIdent noNumber, marked, alone, noBracket]
  simp [noQuote, noTick, noSlash]

/-- The characters that longer literals start with are looked at as such. -/
theorem scan_of_literalStart {c : Char} (starts : c ∈ ['<', '|', '~', '^', '$', '*'])
    (rest : List Char)
    : scan c rest = scanLiteral c rest := by
  simp only [List.mem_cons, List.not_mem_nil, or_false] at starts
  rcases starts with rfl | rfl | rfl | rfl | rfl | rfl
  all_goals
    rw [scan_of_mark (by decide) (by decide) rfl rfl
      (numberLength_of_head (by decide) (by decide) (by decide))]
    rfl

/-- Literals of more than one character are scanned as themselves whatever follows. -/
theorem scan_longLiteral {text : List Char} (long : text ∈ longLiterals) (after : List Char)
    : ∃ c rest,
        text ++ after = c :: rest ∧ scan c rest = ([.atom (.literal text)], text.length) := by
  simp only [longLiterals, List.map_cons, List.map_nil, List.mem_cons, List.not_mem_nil, or_false]
    at long
  rcases long with rfl | rfl | rfl | rfl | rfl | rfl | rfl | rfl
  · exact ⟨'<', _, rfl, scan_of_literalStart (by decide) _⟩
  · exact ⟨'-', _, rfl, rfl⟩
  · exact ⟨'|', _, rfl, scan_of_literalStart (by decide) _⟩
  · exact ⟨'~', _, rfl, scan_of_literalStart (by decide) _⟩
  · exact ⟨'|', _, rfl, scan_of_literalStart (by decide) _⟩
  · exact ⟨'^', _, rfl, scan_of_literalStart (by decide) _⟩
  · exact ⟨'$', _, rfl, scan_of_literalStart (by decide) _⟩
  · exact ⟨'*', _, rfl, scan_of_literalStart (by decide) _⟩

/-- A token that can be read back is scanned as itself where it stops. -/
theorem scan_text {token : Token} {after : List Char} (formed : token.WellFormed)
    (legible : token.isLegible = true) (stops : token.stops after = true)
    : ∃ c rest, token.text ++ after = c :: rest ∧ scan c rest = ([token], token.text.length) := by
  -- Tokens whose first character is not known from their kind: some character is the first.
  have first {text : List Char} {scanned : List Token × Nat}
      (filled : text ≠ [])
      (scans : ∀ c rest, text = c :: rest → scan c rest = scanned)
      : ∃ c rest, text = c :: rest ∧ scan c rest = scanned := by
    obtain ⟨c, rest, same⟩ := List.exists_cons_of_ne_nil filled
    exact ⟨c, rest, same, scans c rest same⟩
  cases token with
  | atom found =>
    cases found with
    | whitespace text =>
      obtain ⟨c, blanks, rfl⟩ := List.exists_cons_of_ne_nil formed.1
      exact ⟨c, blanks ++ after, rfl,
        scan_whitespace (formed.2 c List.mem_cons_self)
          (fun d member => formed.2 d (List.mem_cons_of_mem _ member)) stops⟩
    | literal text =>
      rcases formed with ⟨c, rfl, is⟩ | long
      · exact ⟨c, after, rfl, scan_mark is stops⟩
      · exact scan_longLiteral long after
    | ident name =>
      have filled : writeIdent name ++ after ≠ [] := by
        rintro same
        have starts := startsIdent_writeIdent formed.1 after
        rw [same] at starts
        cases starts
      exact first filled fun c rest text => scan_ident formed stops text
    | atKeyword name => exact ⟨'@', _, rfl, scan_atKeyword formed stops⟩
    | hash name isIdent => exact ⟨'#', _, rfl, scan_hash formed.1 formed.2 stops⟩
    | string value closed =>
      cases closed with
      | false => cases legible
      | true =>
        refine ⟨'"', value.flatMap stringChar ++ '"' :: after, ?_, ?_⟩
        · simp [Token.text, writeAtom]
        · rw [scan_string]
          simp [Token.text, writeAtom]
    | url value closed =>
      simp only [Token.isLegible, Bool.and_eq_true, List.all_eq_true] at legible
      obtain ⟨rfl, writable⟩ := legible
      refine ⟨'u', 'r' :: 'l' :: '(' :: (value.flatMap urlChar ++ ')' :: after), ?_, ?_⟩
      · simp [Token.text, writeAtom]
      · rw [scan_url writable]
        simp [Token.text, writeAtom]
    | unicodeRange lowest highest =>
      refine ⟨'U', _, ?_, (scan_unicodeRange formed.1 formed.2 stops).trans ?_⟩
      · simp [Token.text, writeAtom]
      · simp [Token.text, writeAtom]
    | number text =>
      obtain ⟨d, more, same, -⟩ := formed.head
      exact first (by simp [Token.text, writeAtom, same]) fun c rest text =>
        scan_number formed stops text
    | percentage text =>
      refine first (by simp [Token.text, writeAtom]) fun c rest same => ?_
      simp only [Token.text, writeAtom, List.append_assoc, List.singleton_append] at same
      rw [scan_percentage formed same]
      simp [Token.text, writeAtom]
    | dimension text unit =>
      obtain ⟨d, more, same, -⟩ := formed.1.head
      refine first (by simp [Token.text, writeAtom, same]) fun c rest same => ?_
      simp only [Token.text, writeAtom, List.append_assoc] at same
      rw [scan_dimension formed.1 formed.2 legible stops same]
      simp [Token.text, writeAtom]
    | flaw fault =>
      simp only [Token.isLegible, beq_iff_eq] at legible
      subst legible
      exact ⟨'u', _, rfl, scan_badUrl after⟩
  | function name =>
    refine first (by simp [Token.text]) fun c rest same => ?_
    simp only [Token.text, List.append_assoc, List.singleton_append] at same
    rw [scan_function formed stops same]
    simp [Token.text]
  | opening bracket =>
    cases bracket <;> exact ⟨_, after, rfl, scan_bracket rfl after⟩
  | closing bracket =>
    cases bracket <;> exact ⟨_, after, rfl, scan_bracket rfl after⟩

end CriticalCss.Syntax
