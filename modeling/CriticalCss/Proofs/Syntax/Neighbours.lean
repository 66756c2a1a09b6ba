import CriticalCss.Proofs.Syntax.Scanning

/-! Tokens written one after the other. Between two that would run together a comment is written;
the pairs that this misses clash, and a list without clashes is scanned as itself.
-/

namespace CriticalCss.Syntax

--------------------------------------------------------------------------------
-- Tokens side by side
--------------------------------------------------------------------------------

/-- The kind of a token, as far as the token behind it has to know it. -/
def Token.leftKind? : Token → Option Kind
  | .atom found => some found.kind
  | .function _ | .opening _ | .closing _ => none

/-- The kind of a token, as far as the token before it has to know it. -/
def Token.rightKind? : Token → Option Kind
  | .atom found => some found.kind
  | .function _ => some .function
  | .opening bracket => some (.block bracket)
  | .closing _ => none

/-- What is written in front of a token. -/
def gap (left : Option Kind) (right : Token) : List Char :=
  match left, right.rightKind? with
  | some left, some right => if runTogether left right then "/**/".toList else []
  | _, _ => []

/-- The text of tokens behind a neighbour of the given kind. -/
def spell (left : Option Kind) : List Token → List Char
  | [] => []
  | token :: rest => gap left token ++ (token.text ++ spell token.leftKind? rest)

/-- Would the two kinds run together although nothing is written between them? -/
def clash (left right : Kind) : Bool :=
  (left = .whitespace && right = .whitespace)
    || ((left.endsInName || left = .number || left.isMark '#' || left.isMark '-' || left.isMark '@')
      && right = .flaw)
    || ((left = .number || left.isMark '#' || left.isMark '-' || left.isMark '@')
      && right = .literal "-->".toList)
    || ((left.isMark '#' || left.isMark '-') && right.isMark '-')
    || (left = .number && right.isMark '%')
    || (left.isMark '/' && right = .literal "*=".toList)
    || (left.isMark '|' && (right = .literal "||".toList || right = .literal "|=".toList))
    || (left.isMark '<' && right.isMark '!')

/-- Do the two tokens clash? -/
def Token.clashes (left right : Token) : Bool :=
  match left.leftKind?, right.rightKind? with
  | some left, some right => clash left right
  | _, _ => false

/-- Do the tokens start with a quoted string, a blank passed? -/
def startsWithString : List Token → Bool
  | .atom (.string _ _) :: _ => true
  | .atom (.whitespace _) :: .atom (.string _ _) :: _ => true
  | _ => false

/-- Is the token the literal of one character? -/
def Token.isChar (c : Char) (token : Token) : Bool :=
  token == .atom (.literal [c])

/-- Would the token be taken for the start of another one? The name of a range is followed by no
plus sign, two hyphens by no greater-than sign, and a function for urls by a quoted one. -/
def Token.misleads (token : Token) (after : List Token) : Bool :=
  match token with
  | .atom (.ident name) =>
    (lowerAscii name == ['u'] && after.head?.any (Token.isChar '+'))
      || (name == ['-', '-'] && after.head?.any (Token.isChar '>'))
  | .function name => lowerAscii name == "url".toList && !startsWithString after
  | _ => false

/-- Are the tokens written in a way that keeps them apart? -/
def separate : List Token → Bool
  | [] => true
  | token :: rest =>
    !token.misleads rest && !rest.head?.any token.clashes && separate rest

/-- Can every token be read back from its text? -/
structure Legible (tokens : List Token) : Prop where
  formed : ∀ token ∈ tokens, token.WellFormed
  legible : ∀ token ∈ tokens, token.isLegible = true

theorem Legible.tail {token : Token} {rest : List Token} (legible : Legible (token :: rest))
    : Legible rest :=
  ⟨fun token member => legible.formed token (List.mem_cons_of_mem _ member),
    fun token member => legible.legible token (List.mem_cons_of_mem _ member)⟩

/-- Does every token stop before what is written behind it? -/
def Stopping : List Token → Prop
  | [] => True
  | token :: rest => token.stops (spell token.leftKind? rest) = true ∧ Stopping rest

theorem gap_cases (left : Option Kind) (next : Token)
    : gap left next = "/**/".toList ∨ gap left next = [] := by
  unfold gap
  split
  · split
    · exact Or.inl rfl
    · exact Or.inr rfl
  · exact Or.inr rfl

theorem gap_none (next : Token) : gap none next = [] :=
  rfl

/-- Nothing is written between whitespace and what stands behind it. -/
theorem gap_whitespace (next : Token) : gap (some .whitespace) next = [] := by
  unfold gap
  split
  · rename_i right same _
    cases same
    have apart : runTogether .whitespace right = false := by
      simp [runTogether, Kind.endsInName, Kind.isMark]
    rw [apart]
    rfl
  · rfl

--------------------------------------------------------------------------------
-- First characters
--------------------------------------------------------------------------------

/-- Does the token start with a character that ends a name? -/
def Token.startsPlain : Token → Bool
  | .atom (.literal text) => text != ['-'] && text != "-->".toList
  | .atom (.whitespace _) | .atom (.atKeyword _) | .atom (.hash _ _) | .atom (.string _ _) => true
  | .opening _ | .closing _ => true
  | _ => false

/-- The first character of a mark ends a name, a hyphen and a backslash aside. -/
theorem isMark_plain {c : Char} (is : isMark c = true) (noHyphen : c ≠ '-')
    : isNamePart c = false ∧ c.isDigit = false := by
  simp only [isMark, Bool.and_eq_true, Bool.not_eq_true'] at is
  obtain ⟨⟨⟨⟨⟨⟨⟨⟨-, noStart⟩, noDigit⟩, -⟩, -⟩, -⟩, -⟩, -⟩, -⟩ := is
  simp [isNamePart, noStart, noDigit, noHyphen]

/-- The first character of a token that starts plainly. -/
theorem Token.head_of_startsPlain {token : Token} (formed : token.WellFormed)
    (legible : token.isLegible = true) (plain : token.startsPlain = true)
    : ∃ c more, token.text = c :: more ∧ isNamePart c = false ∧ c ≠ '\\' := by
  cases token with
  | atom found =>
    cases found with
    | whitespace text =>
      obtain ⟨c, blanks, rfl⟩ := List.exists_cons_of_ne_nil formed.1
      have space := formed.2 c List.mem_cons_self
      refine ⟨c, blanks, rfl, ?_, ?_⟩
      · rw [isSpace_iff] at space
        rw [← Bool.not_eq_true, isNamePart_iff, isNameStart_iff]
        omega
      · rintro rfl
        exact absurd space (by decide)
    | literal text =>
      simp only [startsPlain, Bool.and_eq_true, bne_iff_ne, ne_eq] at plain
      rcases formed with ⟨c, rfl, is⟩ | long
      · refine ⟨c, [], rfl, (isMark_plain is (by simpa using plain.1)).1, ?_⟩
        rintro rfl
        exact absurd legible (by decide)
      · simp only [longLiterals, List.map_cons, List.map_nil, List.mem_cons, List.not_mem_nil,
          or_false] at long
        rcases long with rfl | rfl | rfl | rfl | rfl | rfl | rfl | rfl
        · exact ⟨'<', _, rfl, by decide, by decide⟩
        · exact absurd rfl plain.2
        all_goals exact ⟨_, _, rfl, by decide, by decide⟩
    | atKeyword name => exact ⟨'@', _, rfl, by decide, by decide⟩
    | hash name isIdent => exact ⟨'#', _, rfl, by decide, by decide⟩
    | string value closed => exact ⟨'"', _, rfl, by decide, by decide⟩
    | ident _ | url _ _ | unicodeRange _ _ | number _ | percentage _ | dimension _ _ | flaw _ =>
      cases plain
  | function name => cases plain
  | opening bracket => cases bracket <;> exact ⟨_, _, rfl, by decide, by decide⟩
  | closing bracket => cases bracket <;> exact ⟨_, _, rfl, by decide, by decide⟩

theorem endsName_of_head {c : Char} {rest : List Char} (noPart : isNamePart c = false)
    (noBackslash : c ≠ '\\')
    : endsName (c :: rest) = true := by
  simp [endsName, noPart, startsEscape_of_head noBackslash]

theorem gap_eq_nil {left : Kind} {next : Token} (noGap : gap (some left) next = [])
    : next.rightKind?.any (runTogether left) = false := by
  unfold gap at noGap
  split at noGap
  · rename_i right _ same kind
    cases same
    rw [kind, Option.any_some, ← Bool.not_eq_true]
    intro together
    rw [if_pos together] at noGap
    exact absurd noGap (by decide)
  · rename_i noKind
    cases kind : next.rightKind? with
    | none => rfl
    | some right => exact absurd kind (noKind left right rfl)

/-- The kinds that do not start plainly. -/
def nameLike : List Kind :=
  [.ident, .function, .url, .unicodeRange, .number, .percentage, .dimension, .flaw, .literal ['-'],
    .literal "-->".toList]

theorem Token.startsPlain_or (token : Token)
    : token.startsPlain = true ∨ ∃ kind ∈ nameLike, token.rightKind? = some kind := by
  cases token with
  | atom found =>
    cases found with
    | whitespace _ | atKeyword _ | hash _ _ | string _ _ => exact Or.inl rfl
    | literal text =>
      by_cases hyphen : text = ['-']
      · exact Or.inr ⟨.literal ['-'], by decide, by rw [hyphen]; rfl⟩
      · by_cases arrow : text = "-->".toList
        · exact Or.inr ⟨.literal "-->".toList, by decide, by rw [arrow]; rfl⟩
        · refine Or.inl ?_
          simp only [startsPlain, Bool.and_eq_true, bne_iff_ne, ne_eq]
          exact ⟨hyphen, arrow⟩
    | ident _ => exact Or.inr ⟨.ident, by decide, rfl⟩
    | url _ _ => exact Or.inr ⟨.url, by decide, rfl⟩
    | unicodeRange _ _ => exact Or.inr ⟨.unicodeRange, by decide, rfl⟩
    | number _ => exact Or.inr ⟨.number, by decide, rfl⟩
    | percentage _ => exact Or.inr ⟨.percentage, by decide, rfl⟩
    | dimension _ _ => exact Or.inr ⟨.dimension, by decide, rfl⟩
    | flaw _ => exact Or.inr ⟨.flaw, by decide, rfl⟩
  | function name => exact Or.inr ⟨.function, by decide, rfl⟩
  | opening bracket => exact Or.inl rfl
  | closing bracket => exact Or.inl rfl

/-- A character that stands at the start of a token says which one it is, names, numbers, blanks
and quotes aside. -/
theorem Token.of_head {token : Token} {c : Char} {more : List Char} (formed : token.WellFormed)
    (legible : token.isLegible = true) (text : token.text = c :: more)
    (noStart : isNameStart c = false) (other : c ∉ ['-', '\\', '@', '#', '"'])
    : (∃ blanks, token = .atom (.whitespace blanks) ∧ isSpace c = true)
      ∨ token = .atom (.literal (c :: more))
      ∨ (∃ bracket, token = .opening bracket ∧ openingChar bracket = c)
      ∨ (∃ bracket, token = .closing bracket ∧ closingChar bracket = c)
      ∨ token.rightKind?.any Kind.startsWithNumber = true
        ∧ (c.isDigit = true ∨ c = '+' ∨ c = '.') := by
  simp only [List.mem_cons, List.not_mem_nil, or_false, not_or] at other
  obtain ⟨noHyphen, noBackslash, noAt, noHash, noQuote⟩ := other
  have name {name after : List Char} (filled : name ≠ [])
      (text : writeIdent name ++ after = c :: more)
      : False := by
    rcases writeIdent_cases filled with ⟨_, written⟩ | ⟨_, written⟩ | ⟨d, _, _, start, written⟩
    · rw [written, List.cons_append, List.cons.injEq] at text
      exact noHyphen text.1.symm
    · rw [written, List.cons_append, List.cons.injEq] at text
      exact noBackslash text.1.symm
    · rw [written, List.cons_append, List.cons.injEq] at text
      rw [text.1, noStart] at start
      cases start
  have number {number after : List Char} (is : IsNumber number) (text : number ++ after = c :: more)
      : c.isDigit = true ∨ c = '+' ∨ c = '.' := by
    obtain ⟨d, _, rfl, kind⟩ := is.head
    obtain ⟨rfl, -⟩ : d = c ∧ _ := by simpa using text
    rcases kind with digit | point | ⟨plus | hyphen, _⟩
    · exact Or.inl digit
    · exact Or.inr (Or.inr point)
    · exact Or.inr (Or.inl plus)
    · exact absurd hyphen noHyphen
  have letter {d : Char} {others : List Char} (start : isNameStart d = true)
      (text : d :: others = c :: more)
      : False := by
    rw [List.cons.injEq] at text
    rw [text.1, noStart] at start
    cases start
  cases token with
  | atom found =>
    cases found with
    | whitespace blanks =>
      have text : blanks = c :: more := text
      exact Or.inl ⟨blanks, rfl, formed.2 c (by simp [text])⟩
    | literal found =>
      exact Or.inr (Or.inl (congrArg (fun text => Token.atom (.literal text)) text))
    | ident found => exact (name formed.1 ((List.append_nil _).trans text)).elim
    | atKeyword found => exact absurd (List.cons.inj text).1.symm noAt
    | hash found isIdent => exact absurd (List.cons.inj text).1.symm noHash
    | string value closed => exact absurd (List.cons.inj text).1.symm noQuote
    | url value closed => exact (letter (by decide) text).elim
    | unicodeRange first last => exact (letter (by decide) text).elim
    | number found =>
      exact Or.inr (Or.inr (Or.inr (Or.inr ⟨rfl, number formed ((List.append_nil _).trans text)⟩)))
    | percentage found => exact Or.inr (Or.inr (Or.inr (Or.inr ⟨rfl, number formed text⟩)))
    | dimension found unit => exact Or.inr (Or.inr (Or.inr (Or.inr ⟨rfl, number formed.1 text⟩)))
    | flaw fault =>
      simp only [isLegible, beq_iff_eq] at legible
      subst legible
      exact (letter (by decide) text).elim
  | function found => exact (name formed.1 text).elim
  | opening bracket => exact Or.inr (Or.inr (Or.inl ⟨bracket, rfl, (List.cons.inj text).1⟩))
  | closing bracket => exact Or.inr (Or.inr (Or.inr (Or.inl ⟨bracket, rfl, (List.cons.inj text).1⟩)))

/-- Literals start with a mark. -/
theorem isMark_of_literal {c : Char} {more : List Char}
    (formed : (Token.atom (.literal (c :: more))).WellFormed)
    : isMark c = true := by
  rcases formed with ⟨d, single, is⟩ | long
  · rwa [(List.cons.inj single).1]
  · simp only [longLiterals, List.map_cons, List.map_nil, List.mem_cons, List.not_mem_nil, or_false]
      at long
    rcases long with long | long | long | long | long | long | long | long
    all_goals
      rw [(List.cons.inj long).1]
      decide

/-- Every token that can be read back has a text. -/
theorem Token.exists_text {token : Token} (formed : token.WellFormed)
    (legible : token.isLegible = true)
    : ∃ c more, token.text = c :: more := by
  have name {name : List Char} (filled : name ≠ []) (after : List Char)
      : ∃ c more, writeIdent name ++ after = c :: more := by
    rcases writeIdent_cases filled with ⟨_, written⟩ | ⟨_, written⟩ | ⟨_, _, _, _, written⟩
    · exact ⟨_, _, by rw [written, List.cons_append]⟩
    · exact ⟨_, _, by rw [written, List.cons_append]⟩
    · exact ⟨_, _, by rw [written, List.cons_append]⟩
  have number {number : List Char} (is : IsNumber number) (after : List Char)
      : ∃ c more, number ++ after = c :: more := by
    obtain ⟨c, _, rfl, _⟩ := is.head
    exact ⟨c, _, rfl⟩
  cases token with
  | atom found =>
    cases found with
    | whitespace text => exact List.exists_cons_of_ne_nil formed.1
    | literal text =>
      rcases formed with ⟨c, rfl, _⟩ | long
      · exact ⟨c, [], rfl⟩
      · simp only [longLiterals, List.map_cons, List.map_nil, List.mem_cons, List.not_mem_nil,
          or_false] at long
        rcases long with rfl | rfl | rfl | rfl | rfl | rfl | rfl | rfl <;> exact ⟨_, _, rfl⟩
    | ident text => simpa [Token.text, writeAtom] using name formed.1 []
    | number text => simpa [Token.text, writeAtom] using number formed []
    | percentage text => exact number formed ['%']
    | dimension text unit => exact number formed.1 (writeUnit unit)
    | flaw fault =>
      simp only [isLegible, beq_iff_eq] at legible
      subst legible
      exact ⟨_, _, rfl⟩
    | atKeyword _ | hash _ _ | string _ _ | url _ _ | unicodeRange _ _ => exact ⟨_, _, rfl⟩
  | function text => exact name formed.1 ['(']
  | opening _ | closing _ => exact ⟨_, _, rfl⟩

/-- Behind a point that is no number no digit stands. -/
theorem endsRun_of_numberLength {after : List Char} (noNumber : numberLength ('.' :: after) = 0)
    : endsRun Char.isDigit after = true := by
  have none : leadingDigits ('.' :: after) = [] := rfl
  have sign : signLength ('.' :: after) = 0 := rfl
  rw [numberLength_eq, sign, List.drop_zero] at noNumber
  cases after with
  | nil => rfl
  | cons d rest =>
    by_cases digit : d.isDigit = true
    · have mantissa : mantissaLength ('.' :: d :: rest) ≠ 0 := by
        simp [mantissaLength, leadingDigits, digit]
      rw [if_neg mantissa] at noNumber
      omega
    · simpa [endsRun] using digit

/-- Only a number, or a point in front of a digit, starts with what continues a mantissa. -/
theorem Token.endsMantissa_text {token : Token} {more : List Char} (formed : token.WellFormed)
    (legible : token.isLegible = true) (stops : token.stops more = true)
    (noNumber : token.rightKind?.any Kind.startsWithNumber = false)
    : endsMantissa (token.text ++ more) = true := by
  obtain ⟨c, others, text⟩ := Token.exists_text formed legible
  by_cases continues : c.isDigit = true ∨ c = '.'
  · obtain ⟨noSpace, noStart, noHyphen, noBackslash, -⟩ := plain_of_digit_or_point continues
    have far : c ∉ ['-', '\\', '@', '#', '"'] := by
      intro listed
      simp only [List.mem_cons, List.not_mem_nil, or_false] at listed
      rcases listed with rfl | rfl | rfl | rfl | rfl <;> exact absurd continues (by decide)
    rcases Token.of_head formed legible text noStart far
      with ⟨_, _, space⟩ | rfl | ⟨bracket, _, same⟩ | ⟨bracket, _, same⟩ | ⟨number, _⟩
    · rw [noSpace] at space
      cases space
    · rcases formed with ⟨d, single, is⟩ | long
      · obtain ⟨rfl, rfl⟩ : c = d ∧ others = [] := by simpa using single
        rcases continues with digit | rfl
        · simp [isMark, digit] at is
        · have alone : markStops '.' more = true := stops
          simp only [markStops, Bool.and_eq_true, beq_iff_eq] at alone
          have noDigit := endsRun_of_numberLength alone.1.1.1.1.1.2
          simpa [endsMantissa, Token.text, writeAtom, endsRun] using noDigit
      · simp only [longLiterals, List.map_cons, List.map_nil, List.mem_cons, List.not_mem_nil,
          or_false] at long
        rcases long with long | long | long | long | long | long | long | long
        all_goals
          obtain ⟨rfl, -⟩ := List.cons.inj long
          exact absurd continues (by decide)
    · cases bracket <;> (subst same; exact absurd continues (by decide))
    · cases bracket <;> (subst same; exact absurd continues (by decide))
    · rw [noNumber] at number
      cases number
  · simp only [not_or, Bool.not_eq_true] at continues
    rw [text]
    simp [endsMantissa, endsRun, continues]

theorem startsIdent_of_head {c : Char} {rest : List Char} (noPart : isNamePart c = false)
    (noBackslash : c ≠ '\\')
    : startsIdent (c :: rest) = false := by
  have noHyphen : c ≠ '-' := by
    rintro rfl
    exact absurd noPart (by decide)
  simp only [isNamePart, Bool.or_eq_false_iff] at noPart
  unfold startsIdent
  split
  · rfl
  · rename_i same
    cases same
    exact absurd rfl noHyphen
  · rename_i same
    cases same
    rw [noPart.1.1, startsEscape_of_head noBackslash]
    rfl

/-- Tokens with a number in them start with it. -/
theorem Token.number_text {token : Token} (formed : token.WellFormed)
    (starts : token.rightKind?.any Kind.startsWithNumber = true)
    : ∃ number after, IsNumber number ∧ token.text = number ++ after := by
  cases token with
  | atom found =>
    cases found with
    | number text => exact ⟨text, [], formed, (List.append_nil _).symm⟩
    | percentage text => exact ⟨text, ['%'], formed, rfl⟩
    | dimension text unit => exact ⟨text, writeUnit unit, formed.1, rfl⟩
    | whitespace _ | literal _ | ident _ | atKeyword _ | hash _ _ | string _ _ | url _ _
    | unicodeRange _ _ | flaw _ => cases starts
  | function _ => cases starts
  | opening _ => cases starts
  | closing _ => cases starts

theorem Token.eq_literal {token : Token} {text : List Char}
    (same : token.rightKind? = some (.literal text))
    : token = .atom (.literal text) := by
  cases token with
  | atom found =>
    cases found with
    | literal found =>
      simp only [rightKind?, Atom.kind, Option.some.injEq, Kind.literal.injEq] at same
      rw [same]
    | whitespace _ | number _ | percentage _ | dimension _ _ | ident _ | atKeyword _ | hash _ _
    | string _ _ | url _ _ | unicodeRange _ _ | flaw _ => cases same
  | function _ => cases same
  | opening _ => cases same
  | closing _ => cases same

/-- Urls and ranges start with one letter. -/
theorem Token.letter_text {token : Token} {kind : Kind} (legible : token.isLegible = true)
    (letter : kind ∈ [Kind.url, .unicodeRange, .flaw]) (same : token.rightKind? = some kind)
    : ∃ more, token.text = 'u' :: more ∨ token.text = 'U' :: more := by
  cases token with
  | atom found =>
    simp only [rightKind?, Option.some.injEq] at same
    subst same
    cases found with
    | url value closed => exact ⟨_, Or.inl rfl⟩
    | unicodeRange first last => exact ⟨_, Or.inr rfl⟩
    | flaw fault =>
      simp only [isLegible, beq_iff_eq] at legible
      subst legible
      exact ⟨_, Or.inl rfl⟩
    | literal _ | whitespace _ | number _ | percentage _ | dimension _ _ | ident _ | atKeyword _
    | hash _ _ | string _ _ => simp [Atom.kind] at letter
  | function name =>
    cases same
    exact absurd letter (by decide)
  | opening bracket =>
    cases same
    simp at letter
  | closing bracket => cases same

/-- Behind a hyphen that stands alone no hexadecimal digit stands. -/
theorem endsRun_of_markStops {after : List Char} (stops : markStops '-' after = true)
    : endsRun Text.isHexDigit after = true := by
  simp only [markStops, Bool.and_eq_true, Bool.not_eq_true', beq_iff_eq] at stops
  obtain ⟨⟨⟨⟨⟨⟨noIdent, noNumber⟩, -⟩, -⟩, -⟩, -⟩, -⟩ := stops
  cases after with
  | nil => rfl
  | cons d rest =>
    simp only [endsRun, List.head?_cons, Option.any_some, Bool.not_eq_true']
    rw [← Bool.not_eq_true, isHexDigit_iff]
    intro hex
    by_cases digit : d.isDigit = true
    · have mantissa := mantissaLength_ne_zero digit rest
      rw [numberLength_eq] at noNumber
      rw [if_neg (show mantissaLength (('-' :: d :: rest).drop (signLength ('-' :: d :: rest))) ≠ 0
        from mantissa)] at noNumber
      simp [signLength] at noNumber
    · rw [isDigit_iff] at digit
      have start : isNameStart d = true := by
        rw [isNameStart_iff]
        omega
      simp [startsIdent, start] at noIdent

theorem mantissaLength_of_endsMantissa {text : List Char} (ends : endsMantissa text = true)
    : mantissaLength text = 0 := by
  simp only [endsMantissa, Bool.and_eq_true, Bool.or_eq_true, bne_iff_ne, ne_eq] at ends
  have whole : leadingDigits text = [] := takeWhile_of_endsRun ends.1
  unfold mantissaLength
  simp only [whole, List.length_nil, List.drop_zero]
  split
  · rename_i rest
    have fraction : leadingDigits rest = [] :=
      takeWhile_of_endsRun (ends.2.resolve_left (by simp))
    simp [fraction]
  · rfl

/-- What may stand behind a mark depends on the mark. -/
theorem markStops_of {c : Char} {after : List Char} (is : isMark c = true) (noBackslash : c ≠ '\\')
    (name : c = '#' ∨ c = '-' → endsName after = true)
    (keyword : c = '@' → startsIdent after = false)
    (number : c = '+' ∨ c = '-' ∨ c = '.' → endsMantissa after = true)
    (comment : c = '/' → after.head? ≠ some '*') (bar : c = '|' → after.head? ≠ some '|')
    (equals : joinsEquals c = true → after.head? ≠ some '=')
    (bang : c = '<' → after.head? ≠ some '!')
    : markStops c after = true := by
  simp only [isMark, Bool.and_eq_true, Bool.not_eq_true'] at is
  obtain ⟨⟨⟨⟨⟨⟨⟨⟨-, noStart⟩, noDigit⟩, -⟩, -⟩, -⟩, -⟩, -⟩, -⟩ := is
  have noIdent : startsIdent (c :: after) = false := by
    by_cases hyphen : c = '-'
    · rw [hyphen]
      exact startsIdent_hyphen (name (Or.inr hyphen))
    · refine startsIdent_of_head ?_ noBackslash
      simp [isNamePart, noStart, noDigit, hyphen]
  have noNumber : numberLength (c :: after) = 0 := by
    by_cases starts : c = '+' ∨ c = '-' ∨ c = '.'
    · have ends := number starts
      rw [numberLength_eq]
      rcases starts with rfl | rfl | rfl
      · exact if_pos (mantissaLength_of_endsMantissa ends)
      · exact if_pos (mantissaLength_of_endsMantissa ends)
      · simp only [endsMantissa, Bool.and_eq_true] at ends
        have fraction : leadingDigits after = [] := takeWhile_of_endsRun ends.1
        have mantissa : mantissaLength ('.' :: after) = 0 := by
          have whole : leadingDigits ('.' :: after) = [] := rfl
          simp [mantissaLength, whole, fraction]
        exact if_pos mantissa
    · simp only [not_or] at starts
      exact numberLength_of_head noDigit ⟨starts.1, starts.2.1⟩ starts.2.2
  have noEnd : "-->".toList.isPrefixOf (c :: after) = false := by
    have listed : "-->".toList = ['-', '-', '>'] := by decide
    rw [listed, ← Bool.not_eq_true, List.isPrefixOf_iff_prefix]
    rintro ⟨rest, same⟩
    obtain ⟨rfl, rfl⟩ : '-' = c ∧ '-' :: '>' :: rest = after := by simpa using same
    exact absurd (name (Or.inr rfl)) (by simp [endsName, isNamePart])
  have alone : scanLiteral c after = ([.atom (.literal [c])], 1) := by
    unfold scanLiteral
    rw [if_neg, if_neg, if_neg]
    · simpa using fun joins => equals joins
    · simpa using bar
    · simp only [Bool.and_eq_true, decide_eq_true_eq, not_and, List.isPrefixOf_iff_prefix]
      rintro arrow ⟨rest, same⟩
      exact bang arrow (by rw [← same]; rfl)
  simp only [markStops, noIdent, noNumber, noEnd, alone, Bool.and_eq_true, Bool.not_eq_true',
    Bool.not_false, beq_self_eq_true, Bool.and_eq_false_iff, beq_eq_false_iff_ne, true_and, and_true,
    Bool.not_eq_false']
  refine ⟨⟨?_, ?_⟩, ?_⟩
  · by_cases at' : c = '@'
    · exact Or.inr (keyword at')
    · exact Or.inl at'
  · by_cases hash : c = '#'
    · exact Or.inr (name (Or.inl hash))
    · exact Or.inl hash
  · by_cases slash : c = '/'
    · exact Or.inr (comment slash)
    · exact Or.inl slash

--------------------------------------------------------------------------------
-- What is written behind a token
--------------------------------------------------------------------------------

/-- Tokens that can be read back stand behind a kind, and the first one does not clash with it. -/
structure Apart (left : Kind) (tokens : List Token) : Prop where
  legible : Legible tokens
  stopping : Stopping tokens
  noClash : tokens.head?.any (·.rightKind?.any (clash left)) = false

section Apart

variable {left : Kind} {tokens : List Token}

/-- Behind a token stands nothing, a comment, or a token that neither runs together with it nor
clashes. -/
theorem Apart.elim {p : List Char → Prop} (apart : Apart left tokens) (nothing : p [])
    (comment : ∀ more, p ('/' :: '*' :: more))
    (token
      : ∀ (next : Token) (more : List Char),
          next.WellFormed → next.isLegible = true → next.stops more = true
            → next.rightKind?.any (runTogether left) = false
            → next.rightKind?.any (clash left) = false → p (next.text ++ more))
    : p (spell left tokens) := by
  cases tokens with
  | nil => exact nothing
  | cons next later =>
    unfold spell
    rcases gap_cases left next with together | alone
    · rw [together]
      exact comment _
    · rw [alone, List.nil_append]
      exact token next _ (apart.legible.formed next List.mem_cons_self)
        (apart.legible.legible next List.mem_cons_self) apart.stopping.1 (gap_eq_nil alone)
        apart.noClash

/-- Behind names, number signs and hyphens a name ends. -/
theorem Apart.endsName_spell (apart : Apart left tokens)
    (ender : left ∈ [.ident, .atKeyword, .hash, .dimension, .literal ['#'], .literal ['-']])
    : endsName (spell left tokens) = true := by
  refine apart.elim (p := fun text => endsName text = true) rfl (fun _ => rfl)
    fun next more formed legible _ apart noClash => ?_
  have wrong
      : ∀ kind ∈ nameLike,
          ∀ left ∈ [Kind.ident, .atKeyword, .hash, .dimension, .literal ['#'], .literal ['-']],
            (runTogether left kind || clash left kind) = true := by
    decide
  rcases next.startsPlain_or with plain | ⟨kind, listed, same⟩
  · obtain ⟨c, others, text, noPart, noBackslash⟩ := Token.head_of_startsPlain formed legible plain
    rw [text]
    exact endsName_of_head noPart noBackslash
  · rw [same, Option.any_some] at apart noClash
    have together := wrong kind listed left ender
    rw [apart, noClash] at together
    cases together

/-- What runs together with numbers has no number behind it. -/
theorem not_startsWithNumber {next : Token}
    (joins : ∀ kind ∈ [Kind.number, .percentage, .dimension], runTogether left kind = true)
    (apart : next.rightKind?.any (runTogether left) = false)
    : next.rightKind?.any Kind.startsWithNumber = false := by
  cases found : next.rightKind? with
  | none => rfl
  | some kind =>
    rw [found, Option.any_some] at apart
    rw [Option.any_some, ← Bool.not_eq_true]
    intro starts
    have listed : kind ∈ [Kind.number, .percentage, .dimension] := by
      simpa [Kind.startsWithNumber, or_assoc] using starts
    rw [joins kind listed] at apart
    cases apart

/-- Behind what runs together with numbers a mantissa ends. -/
theorem Apart.endsMantissa_spell (apart : Apart left tokens)
    (joins : ∀ kind ∈ [Kind.number, .percentage, .dimension], runTogether left kind = true)
    : endsMantissa (spell left tokens) = true :=
  apart.elim (p := fun text => endsMantissa text = true) rfl (fun _ => rfl)
    fun _ _ formed legible stops apart _ =>
      Token.endsMantissa_text formed legible stops (not_startsWithNumber joins apart)

/-- What starts with a mark behind a token is a literal that neither runs together with it nor
clashes. -/
theorem Apart.literal_of_head {c : Char} (apart : Apart left tokens) (mark : isMark c = true)
    (other : c ∉ ['-', '\\', '@', '#', '/'])
    (number
      : (c ≠ '+' ∧ c ≠ '.')
        ∨ ∀ kind ∈ [Kind.number, .percentage, .dimension], runTogether left kind = true)
    (head : (spell left tokens).head? = some c)
    : ∃ text ∈ [c] :: longLiterals,
        text.head? = some c ∧ tokens.head? = some (.atom (.literal text))
        ∧ runTogether left (.literal text) = false ∧ clash left (.literal text) = false := by
  simp only [List.mem_cons, List.not_mem_nil, or_false, not_or] at other
  obtain ⟨noHyphen, noBackslash, noAt, noHash, noSlash⟩ := other
  cases tokens with
  | nil => cases head
  | cons next later =>
    unfold spell at head
    rcases gap_cases left next with together | alone
    · rw [together] at head
      exact absurd (Option.some.inj head).symm noSlash
    · rw [alone, List.nil_append] at head
      have formed := apart.legible.formed next List.mem_cons_self
      have legible := apart.legible.legible next List.mem_cons_self
      have noTogether := gap_eq_nil alone
      have noClash := apart.noClash
      simp only [List.head?_cons, Option.any_some] at noClash
      obtain ⟨d, others, text⟩ := Token.exists_text formed legible
      obtain rfl : c = d := by simpa [text, eq_comm] using head
      simp only [isMark, Bool.and_eq_true, Bool.not_eq_true', bne_iff_ne, ne_eq,
        Option.isNone_iff_eq_none] at mark
      obtain ⟨⟨⟨⟨⟨⟨⟨⟨noSpace, noStart⟩, noDigit⟩, noBracket⟩, noQuote⟩, -⟩, -⟩, -⟩, -⟩ := mark
      rcases Token.of_head formed legible text noStart
          (by simp [noHyphen, noBackslash, noAt, noHash, noQuote])
        with ⟨_, _, space⟩ | rfl | ⟨bracket, _, same⟩ | ⟨bracket, _, same⟩ | ⟨starts, sign⟩
      · rw [noSpace] at space
        cases space
      · refine ⟨c :: others, ?_, rfl, rfl, noTogether, noClash⟩
        rcases formed with ⟨e, single, _⟩ | long
        · rw [List.cons.injEq] at single
          rw [single.2]
          exact List.mem_cons_self
        · exact List.mem_cons_of_mem _ long
      · cases bracket <;> (subst same; cases noBracket)
      · cases bracket <;> (subst same; cases noBracket)
      · rcases number with noSign | joins
        · rcases sign with digit | plus | point
          · rw [noDigit] at digit
            cases digit
          · exact absurd plus noSign.1
          · exact absurd point noSign.2
        · rw [not_startsWithNumber joins noTogether] at starts
          cases starts

/-- Only a mark that starts no longer literal stands behind a token where the text starts with it. -/
theorem Apart.first_of_head {c : Char} (apart : Apart left tokens) (mark : isMark c = true)
    (other : c ∉ ['-', '\\', '@', '#', '/'])
    (number
      : (c ≠ '+' ∧ c ≠ '.')
        ∨ ∀ kind ∈ [Kind.number, .percentage, .dimension], runTogether left kind = true)
    (short : ∀ text ∈ longLiterals, text.head? ≠ some c)
    (head : (spell left tokens).head? = some c)
    : tokens.head? = some (.atom (.literal [c])) := by
  obtain ⟨text, listed, starts, first, -, -⟩ := apart.literal_of_head mark other number head
  rcases List.mem_cons.mp listed with rfl | long
  · exact first
  · exact absurd starts (short text long)

/-- What is written behind a token starts with no mark whose literals all run together with it or
clash. -/
theorem Apart.head_ne {c : Char} (apart : Apart left tokens) (mark : isMark c = true)
    (other : c ∉ ['-', '\\', '@', '#', '/', '+', '.'])
    (wrong
      : ∀ text ∈ [c] :: longLiterals,
          text.head? = some c → (runTogether left (.literal text) || clash left (.literal text)) = true)
    : (spell left tokens).head? ≠ some c := by
  simp only [List.mem_cons, List.not_mem_nil, or_false, not_or] at other
  intro head
  obtain ⟨text, listed, starts, -, apart, noClash⟩ :=
    apart.literal_of_head mark (by simp [other]) (Or.inl ⟨other.2.2.2.2.2.1, other.2.2.2.2.2.2⟩) head
  have together := wrong text listed starts
  rw [apart, noClash] at together
  cases together

/-- Behind whitespace no blank is written. -/
theorem Apart.endsRun_spell (apart : Apart .whitespace tokens)
    : endsRun isSpace (spell (some .whitespace) tokens) = true := by
  refine apart.elim (p := fun text => endsRun isSpace text = true) rfl
    (fun _ => rfl) fun next more formed legible stops _ noClash => ?_
  obtain ⟨c, others, text⟩ := Token.exists_text formed legible
  rw [text]
  simp only [endsRun, List.cons_append, List.head?_cons, Option.any_some,
    Bool.not_eq_true']
  rw [← Bool.not_eq_true]
  intro space
  have code := isSpace_iff.mp space
  have noStart : isNameStart c = false := by
    rw [← Bool.not_eq_true, isNameStart_iff]
    omega
  have far : c ∉ ['-', '\\', '@', '#', '"'] := by
    intro listed
    simp only [List.mem_cons, List.not_mem_nil, or_false] at listed
    rcases listed with rfl | rfl | rfl | rfl | rfl <;> exact absurd space (by decide)
  rcases Token.of_head formed legible text noStart far
    with ⟨_, rfl, _⟩ | rfl | ⟨bracket, _, rfl⟩ | ⟨bracket, _, rfl⟩ | ⟨_, digit | rfl | rfl⟩
  · exact absurd noClash (by simp [Token.rightKind?, Atom.kind, clash])
  · have mark := isMark_of_literal formed
    simp [isMark, space] at mark
  · cases bracket <;> exact absurd space (by decide)
  · cases bracket <;> exact absurd space (by decide)
  · rw [isDigit_iff] at digit
    omega
  · exact absurd space (by decide)
  · exact absurd space (by decide)

/-- Behind a range of code points no digit of one is written. -/
theorem Apart.endsRange_spell (apart : Apart .unicodeRange tokens)
    : endsRange (spell (some .unicodeRange) tokens) = true := by
  have noMark : (spell (some .unicodeRange) tokens).head? ≠ some '?' :=
    apart.head_ne (by decide) (by decide) (by decide)
  have behind
      : endsRun Text.isHexDigit (spell (some .unicodeRange) tokens) = true
        ∧ ((spell (some .unicodeRange) tokens).head? ≠ some '-'
          ∨ endsRun Text.isHexDigit ((spell (some .unicodeRange) tokens).drop 1) = true) := by
    refine apart.elim
      (p := fun text =>
        endsRun Text.isHexDigit text = true
        ∧ (text.head? ≠ some '-' ∨ endsRun Text.isHexDigit (text.drop 1) = true))
      (by decide) (fun _ => by simp [endsRun, Text.isHexDigit]) fun next more formed legible stops apart _ => ?_
    rcases next.startsPlain_or with plain | ⟨kind, listed, same⟩
    · obtain ⟨c, others, text, noPart, noBackslash⟩ :=
        Token.head_of_startsPlain formed legible plain
      have noHex := isHexDigit_of_not_isNamePart (ne_true_of_eq_false noPart)
      have noHyphen : c ≠ '-' := by
        rintro rfl
        exact absurd noPart (by decide)
      rw [text]
      exact ⟨by simp [endsRun, noHex], Or.inl (by simpa using noHyphen)⟩
    · rw [same, Option.any_some] at apart
      have others
          : ∀ kind ∈ nameLike,
              runTogether .unicodeRange kind = true ∨ kind ∈ [.url, .unicodeRange, .flaw]
                ∨ kind = .literal ['-'] ∨ kind = .literal "-->".toList := by
        decide
      rcases others kind listed with together | letter | rfl | rfl
      · rw [apart] at together
        cases together
      · obtain ⟨rest, text | text⟩ := Token.letter_text legible letter same
        · rw [text]
          exact ⟨rfl, Or.inl (by simp)⟩
        · rw [text]
          exact ⟨rfl, Or.inl (by simp)⟩
      · obtain rfl := Token.eq_literal same
        exact ⟨rfl, Or.inr (endsRun_of_markStops stops)⟩
      · obtain rfl := Token.eq_literal same
        exact ⟨rfl, Or.inr rfl⟩
  simp only [endsRange, Bool.and_eq_true, Bool.or_eq_true, bne_iff_ne]
  refine ⟨?_, behind.2⟩
  cases found : spell (some .unicodeRange) tokens with
  | nil => rfl
  | cons c others =>
    rw [found] at noMark behind
    have noHex : Text.isHexDigit c = false := by simpa [endsRun] using behind.1
    have other : c ≠ '?' := by simpa using noMark
    simp [endsRun, noHex, other]

/-- Behind an identifier no round bracket is written. -/
theorem Apart.head_ne_round (apart : Apart .ident tokens)
    : (spell (some .ident) tokens).head? ≠ some '(' := by
  refine apart.elim (p := fun text => text.head? ≠ some '(') (by simp) (by simp)
    fun next more formed legible stops apart _ => ?_
  obtain ⟨c, others, text⟩ := Token.exists_text formed legible
  rw [text, List.cons_append, List.head?_cons, Ne, Option.some.injEq]
  rintro rfl
  rcases Token.of_head formed legible text (by decide) (by decide)
    with ⟨_, _, space⟩ | rfl | ⟨bracket, rfl, same⟩ | ⟨bracket, _, same⟩ | ⟨_, sign⟩
  · exact absurd space (by decide)
  · exact absurd (isMark_of_literal formed) (by decide)
  · cases bracket with
    | round => exact absurd apart (by decide)
    | square => exact absurd same (by decide)
    | curly => exact absurd same (by decide)
  · cases bracket <;> exact absurd same (by decide)
  · exact absurd sign (by decide)

/-- Behind an at sign no identifier starts. -/
theorem Apart.not_startsIdent_at (apart : Apart (.literal ['@']) tokens)
    : startsIdent (spell (some (.literal ['@'])) tokens) = false := by
  refine apart.elim (p := fun text => startsIdent text = false) rfl (fun _ => rfl)
    fun next more formed legible stops apart noClash => ?_
  rcases next.startsPlain_or with plain | ⟨kind, listed, same⟩
  · obtain ⟨c, others, text, noPart, noBackslash⟩ := Token.head_of_startsPlain formed legible plain
    rw [text]
    exact startsIdent_of_head noPart noBackslash
  · rw [same, Option.any_some] at apart noClash
    have number
        : ∀ kind ∈ nameLike,
            (runTogether (.literal ['@']) kind || clash (.literal ['@']) kind
              || kind.startsWithNumber) = true := by
      decide
    have starts := number kind listed
    rw [apart, noClash, Bool.false_or, Bool.false_or] at starts
    obtain ⟨text, after, is, written⟩ := Token.number_text formed (by rw [same]; exact starts)
    obtain ⟨c, others, filled⟩ := Token.exists_text formed legible
    rw [written, List.append_assoc]
    rw [filled] at written
    have whole : text ++ (after ++ more) = c :: (others ++ more) := by
      rw [← List.append_assoc, ← written, List.cons_append]
    rw [whole]
    exact (is.plain whole).2.2.2

/-- Behind a number no unit and no exponent starts. -/
theorem Apart.endsNumber_spell (apart : Apart .number tokens)
    : endsNumber (spell (some .number) tokens) = true
      ∧ startsIdent (spell (some .number) tokens) = false := by
  have mantissa := apart.endsMantissa_spell (by decide)
  have behind
      : exponentLength (spell (some .number) tokens) = 0
        ∧ startsIdent (spell (some .number) tokens) = false := by
    refine apart.elim (p := fun text => exponentLength text = 0 ∧ startsIdent text = false)
      ⟨rfl, rfl⟩ (fun _ => ⟨rfl, rfl⟩) fun next more formed legible stops apart noClash => ?_
    rcases next.startsPlain_or with plain | ⟨kind, listed, same⟩
    · obtain ⟨c, others, text, noPart, noBackslash⟩ :=
        Token.head_of_startsPlain formed legible plain
      rw [text]
      refine ⟨exponentLength_of_head ?_, startsIdent_of_head noPart noBackslash⟩
      constructor
      · rintro rfl
        exact absurd noPart (by decide)
      · rintro rfl
        exact absurd noPart (by decide)
    · rw [same, Option.any_some] at apart noClash
      have hyphen
          : ∀ kind ∈ nameLike,
              (runTogether .number kind || clash .number kind || kind = .literal ['-']) = true := by
        decide
      have found := hyphen kind listed
      rw [apart, noClash, Bool.false_or, Bool.false_or, decide_eq_true_eq] at found
      obtain rfl : next = .atom (.literal ['-']) := Token.eq_literal (by rw [same, found])
      have alone : markStops '-' more = true := stops
      simp only [markStops, Bool.and_eq_true, Bool.not_eq_true'] at alone
      exact ⟨exponentLength_of_head (by decide), alone.1.1.1.1.1.1⟩
  exact ⟨by simp [endsNumber, mantissa, behind.1], behind.2⟩

end Apart

/-- A mark stops before what does not clash with it. -/
theorem markStops_spell {c : Char} {tokens : List Token} (is : isMark c = true)
    (noBackslash : c ≠ '\\') (apart : Apart (.literal [c]) tokens)
    : markStops c (spell (some (.literal [c])) tokens) = true := by
  refine markStops_of is noBackslash ?_ ?_ ?_ ?_ ?_ ?_ ?_
  · rintro (rfl | rfl)
    · exact apart.endsName_spell (by decide)
    · exact apart.endsName_spell (by decide)
  · rintro rfl
    exact apart.not_startsIdent_at
  · rintro (rfl | rfl | rfl)
    · exact apart.endsMantissa_spell (by decide)
    · exact apart.endsMantissa_spell (by decide)
    · exact apart.endsMantissa_spell (by decide)
  · rintro rfl
    exact apart.head_ne (by decide) (by decide) (by decide)
  · rintro rfl
    exact apart.head_ne (by decide) (by decide) (by decide)
  · intro joins
    simp only [joinsEquals, Bool.or_eq_true, beq_iff_eq] at joins
    rcases joins with (((rfl | rfl) | rfl) | rfl) | rfl
    all_goals exact apart.head_ne (by decide) (by decide) (by decide)
  · rintro rfl
    exact apart.head_ne (by decide) (by decide) (by decide)

/-- A quoted string is found behind a function, whose brackets it stands in. -/
theorem startsQuoted_spell {tokens : List Token} (legible : Legible tokens)
    (string : startsWithString tokens = true)
    : startsQuoted (spell none tokens) = true := by
  unfold startsWithString at string
  split at string
  · rfl
  · rename_i blanks value closed rest
    have space := (legible.formed (.atom (.whitespace blanks)) List.mem_cons_self).2
    have skipped
        : spell none (.atom (.whitespace blanks) :: .atom (.string value closed) :: rest)
          = blanks ++ spell none (.atom (.string value closed) :: rest) := by
      rw [spell, spell, spell, gap_none, gap_none]
      show [] ++ (blanks ++ (gap (some .whitespace) _ ++ _)) = _
      rw [gap_whitespace]
      rfl
    rw [skipped]
    simp only [startsQuoted]
    rw [List.dropWhile_append_of_pos space]
    rfl
  · cases string

/-- A token stops before tokens that neither clash with it nor make it another one. -/
theorem stops_spell {token : Token} {rest : List Token} (formed : token.WellFormed)
    (legible : token.isLegible = true) (legibleRest : Legible rest) (stopping : Stopping rest)
    (leads : token.misleads rest = false) (noClash : rest.head?.any token.clashes = false)
    : token.stops (spell token.leftKind? rest) = true := by
  have apart (left : Kind) (same : token.leftKind? = some left) : Apart left rest := by
    refine ⟨legibleRest, stopping, ?_⟩
    cases rest with
    | nil => rfl
    | cons next later =>
      simp only [List.head?_cons, Option.any_some, Token.clashes, same] at noClash ⊢
      cases found : next.rightKind? with
      | none => rfl
      | some right => simpa [found] using noClash
  cases token with
  | atom found =>
    cases found with
    | whitespace text => exact (apart .whitespace rfl).endsRun_spell
    | literal text =>
      rcases formed with ⟨c, rfl, is⟩ | long
      · have noBackslash : c ≠ '\\' := by
          rintro rfl
          exact absurd legible (by decide)
        exact markStops_spell is noBackslash (apart _ rfl)
      · simp only [longLiterals, List.map_cons, List.map_nil, List.mem_cons, List.not_mem_nil,
          or_false] at long
        rcases long with rfl | rfl | rfl | rfl | rfl | rfl | rfl | rfl <;> rfl
    | ident name =>
      have alone := apart .ident rfl
      simp only [Token.misleads, Bool.or_eq_false_iff, Bool.and_eq_false_iff,
        beq_eq_false_iff_ne] at leads
      have noRange
          : (spell (some .ident) rest).head? ≠ some '+' ∨ lowerAscii name ≠ ['u'] := by
        refine leads.1.symm.imp_left fun noPlus head => ?_
        rw [alone.first_of_head (by decide) (by decide) (Or.inr (by decide)) (by decide) head]
          at noPlus
        exact absurd noPlus (by decide)
      have noArrow : (spell (some .ident) rest).head? ≠ some '>' ∨ name ≠ ['-', '-'] := by
        refine leads.2.symm.imp_left fun noEnd head => ?_
        rw [alone.first_of_head (by decide) (by decide) (Or.inr (by decide)) (by decide) head]
          at noEnd
        exact absurd noEnd (by decide)
      have ends := alone.endsName_spell (by decide)
      have noCall := alone.head_ne_round
      have range := startsUnicodeRange_writeIdent formed.1 noRange
      have arrow := isPrefixOf_writeIdent formed.1 noArrow
      simp only [Token.stops, Token.leftKind?, Atom.kind, ends, range, arrow, Bool.and_eq_true,
        bne_iff_ne]
      exact ⟨⟨⟨trivial, noCall⟩, rfl⟩, rfl⟩
    | atKeyword name => exact (apart .atKeyword rfl).endsName_spell (by decide)
    | hash name isIdent => exact (apart .hash rfl).endsName_spell (by decide)
    | unicodeRange first last => exact (apart .unicodeRange rfl).endsRange_spell
    | number text =>
      have noPercent : (spell (some .number) rest).head? ≠ some '%' :=
        (apart .number rfl).head_ne (by decide) (by decide) (by decide)
      have ends := (apart .number rfl).endsNumber_spell
      simp [Token.stops, Token.leftKind?, Atom.kind, ends, noPercent]
    | dimension text unit => exact (apart .dimension rfl).endsName_spell (by decide)
    | string _ _ | url _ _ | percentage _ | flaw _ => rfl
  | function name =>
    simp only [Token.misleads, Bool.and_eq_false_iff, beq_eq_false_iff_ne, ne_eq,
      Bool.not_eq_false'] at leads
    simp only [Token.stops, Bool.or_eq_true, bne_iff_ne, ne_eq]
    exact leads.imp_right fun string => startsQuoted_spell legibleRest string
  | opening bracket => rfl
  | closing bracket => rfl

end CriticalCss.Syntax
