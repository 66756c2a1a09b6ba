import CriticalCss.Proofs.Syntax.Names
import CriticalCss.Proofs.Text.Cutting
import Mathlib.Algebra.Group.Nat.Defs

/-! Numbers and ranges of code points read back as they are written. The text of a number is kept,
so it has to be found again in front of anything that does not continue it; ranges are written
anew, in as few digits as they need.
-/

namespace CriticalCss.Syntax

--------------------------------------------------------------------------------
-- Runs of characters
--------------------------------------------------------------------------------

/-- Does a run of characters end before the text? -/
def endsRun (test : Char → Bool) (text : List Char) : Bool :=
  !text.head?.any test

theorem endsRun_iff {test : Char → Bool} {text : List Char}
    : endsRun test text = true ↔ ∀ c ∈ text.head?, test c = false := by
  cases text <;> simp [endsRun]

theorem takeWhile_of_endsRun {test : Char → Bool} {text : List Char}
    (ends : endsRun test text = true)
    : text.takeWhile test = [] :=
  Text.takeWhile_of_head (endsRun_iff.mp ends)

/-- A run of characters is found in front of a text that does not continue it. -/
theorem takeWhile_append_of_endsRun {test : Char → Bool} {run after : List Char}
    (all : ∀ c ∈ run, test c = true) (ends : endsRun test after = true)
    : (run ++ after).takeWhile test = run :=
  Text.takeWhile_append_of_head all (endsRun_iff.mp ends)

theorem take_takeWhile (test : Char → Bool) (text : List Char)
    : text.take (text.takeWhile test).length = text.takeWhile test :=
  List.prefix_iff_eq_take.mp (List.takeWhile_prefix test) |>.symm

theorem mem_takeWhile {test : Char → Bool} {text : List Char} {c : Char}
    (member : c ∈ text.takeWhile test)
    : test c = true :=
  List.all_takeWhile (p := test) (l := text) |> fun all => List.all_eq_true.mp all c member

--------------------------------------------------------------------------------
-- Parts of numbers
--------------------------------------------------------------------------------

/-- At least one digit and nothing else. -/
def IsDigits (text : List Char) : Prop :=
  text ≠ [] ∧ ∀ c ∈ text, c.isDigit = true

/-- A sign, or nothing. -/
def IsSign (text : List Char) : Prop :=
  text = [] ∨ text = ['+'] ∨ text = ['-']

/-- The digits of a number, with a point among them or none. -/
def IsMantissa (text : List Char) : Prop :=
  IsDigits text
  ∨ ∃ whole fraction,
      text = whole ++ '.' :: fraction ∧ (∀ c ∈ whole, c.isDigit = true) ∧ IsDigits fraction

/-- The exponent of a number, or nothing. -/
def IsExponent (text : List Char) : Prop :=
  text = []
  ∨ ∃ letter sign digits,
      text = letter :: (sign ++ digits) ∧ (letter = 'e' ∨ letter = 'E') ∧ IsSign sign
      ∧ IsDigits digits

/-- The text of a number. -/
def IsNumber (text : List Char) : Prop :=
  ∃ sign mantissa exponent,
    text = sign ++ (mantissa ++ exponent) ∧ IsSign sign ∧ IsMantissa mantissa ∧ IsExponent exponent

theorem isDigits_leadingDigits {text : List Char} (some : leadingDigits text ≠ [])
    : IsDigits (leadingDigits text) :=
  ⟨some, fun _ => mem_takeWhile⟩

/-- Does a mantissa end before the text? -/
def endsMantissa (text : List Char) : Bool :=
  endsRun Char.isDigit text
    && (text.head? != some '.' || endsRun Char.isDigit (text.drop 1))

/-- A mantissa is found in front of a text that does not continue it. -/
theorem mantissaLength_append {mantissa after : List Char} (is : IsMantissa mantissa)
    (ends : endsMantissa after = true)
    : mantissaLength (mantissa ++ after) = mantissa.length := by
  simp only [endsMantissa, Bool.and_eq_true, Bool.or_eq_true] at ends
  rcases is with ⟨some, digits⟩ | ⟨whole, fraction, rfl, digits, some, more⟩
  · have found : leadingDigits (mantissa ++ after) = mantissa :=
      takeWhile_append_of_endsRun digits ends.1
    unfold mantissaLength
    simp only [found, List.drop_left]
    split
    · rename_i rest
      have none : leadingDigits rest = [] :=
        takeWhile_of_endsRun (ends.2.resolve_left (by simp))
      simp [none]
    · rfl
  · have point : endsRun Char.isDigit ('.' :: (fraction ++ after)) = true := by
      have : '.'.isDigit = false := by decide
      simp [endsRun, this]
    have found : leadingDigits (whole ++ '.' :: (fraction ++ after)) = whole :=
      takeWhile_append_of_endsRun digits point
    have behind : leadingDigits (fraction ++ after) = fraction :=
      takeWhile_append_of_endsRun more ends.1
    unfold mantissaLength
    simp [found, behind, some]
    omega

/-- A digit starts a mantissa. -/
theorem mantissaLength_ne_zero {c : Char} (digit : c.isDigit = true) (rest : List Char)
    : mantissaLength (c :: rest) ≠ 0 := by
  unfold mantissaLength
  simp only [leadingDigits, List.takeWhile_cons, digit, if_true]
  split
  · split
    · simp
    · simp
  · simp

/-- What is taken for a mantissa is one. -/
theorem isMantissa_take {text : List Char} (some : mantissaLength text ≠ 0)
    : IsMantissa (text.take (mantissaLength text)) := by
  have taken : text.take (leadingDigits text).length = leadingDigits text := take_takeWhile _ text
  have wholeOnly (length : mantissaLength text = (leadingDigits text).length)
      : IsMantissa (text.take (mantissaLength text)) := by
    rw [length] at some ⊢
    rw [taken]
    exact Or.inl (isDigits_leadingDigits (by simpa using some))
  revert wholeOnly some
  unfold mantissaLength
  dsimp only
  split
  · rename_i rest behind
    split
    · exact fun _ wholeOnly => wholeOnly rfl
    · rename_i more
      intro _ _
      have split : text = leadingDigits text ++ '.' :: rest := by
        rw [← behind, ← taken, List.length_take, Nat.min_eq_left, List.take_append_drop]
        exact (List.takeWhile_prefix _).length_le
      have fraction : rest.take (leadingDigits rest).length = leadingDigits rest :=
        take_takeWhile _ rest
      refine Or.inr ⟨leadingDigits text, leadingDigits rest, ?_, fun _ => mem_takeWhile,
        isDigits_leadingDigits (by simpa using more)⟩
      have past (whole : List Char) (count : Nat)
          : (whole ++ '.' :: rest).take (whole.length + 1 + count) = whole ++ '.' :: rest.take count := by
        rw [Nat.add_assoc, List.take_length_add_append, Nat.add_comm 1, List.take_succ_cons]
      calc text.take ((leadingDigits text).length + 1 + (leadingDigits rest).length)
        _ = (leadingDigits text ++ '.' :: rest).take
              ((leadingDigits text).length + 1 + (leadingDigits rest).length) := by
          rw [← split]
        _ = leadingDigits text ++ '.' :: leadingDigits rest := by rw [past, fraction]
  · exact fun _ wholeOnly => wholeOnly rfl

/-- An exponent is found in front of a text that does not continue it. -/
theorem exponentLength_append {letter : Char} {sign digits after : List Char}
    (isLetter : letter = 'e' ∨ letter = 'E') (isSign : IsSign sign) (are : IsDigits digits)
    (ends : endsRun Char.isDigit after = true)
    : exponentLength (letter :: (sign ++ digits) ++ after) = 1 + sign.length + digits.length := by
  have found : leadingDigits (digits ++ after) = digits :=
    takeWhile_append_of_endsRun are.2 ends
  have some : (leadingDigits (digits ++ after)).isEmpty = false := by simp [found, are.1]
  unfold exponentLength
  rcases isSign with rfl | rfl | rfl
  · obtain ⟨first, others, rfl⟩ := List.exists_cons_of_ne_nil are.1
    have digit := isDigit_iff.mp (are.2 first List.mem_cons_self)
    have noPlus : first ≠ '+' := by
      rintro rfl
      exact absurd digit.1 (by decide)
    have noMinus : first ≠ '-' := by
      rintro rfl
      exact absurd digit.1 (by decide)
    simp only [List.cons_append] at found some
    simp [isLetter, noPlus, noMinus, found]
  · simp [isLetter, found, are.1]
  · simp [isLetter, found, are.1]

/-- What is taken for an exponent is one. -/
theorem isExponent_take (text : List Char) : IsExponent (text.take (exponentLength text)) := by
  have digits (rest : List Char) (some : ¬(leadingDigits rest).isEmpty = true)
      : rest.take (leadingDigits rest).length = leadingDigits rest ∧ IsDigits (leadingDigits rest) :=
    ⟨take_takeWhile _ rest, isDigits_leadingDigits (by simpa using some)⟩
  unfold exponentLength
  split
  · rename_i letter rest
    split
    · rename_i isLetter
      split
      · rename_i s after
        split
        · rename_i isSign
          dsimp only
          split
          · exact Or.inl rfl
          · rename_i some
            refine Or.inr ⟨letter, [s], leadingDigits after, ?_, by simpa using isLetter, ?_,
              (digits after some).2⟩
            · rw [Nat.add_comm 2, List.take_succ_cons, List.take_succ_cons, (digits after some).1]
              rfl
            · simpa [IsSign] using isSign
        · dsimp only
          split
          · exact Or.inl rfl
          · rename_i some
            refine Or.inr ⟨letter, [], leadingDigits (s :: after), ?_, by simpa using isLetter,
              Or.inl rfl, (digits _ some).2⟩
            rw [Nat.add_comm 1, List.take_succ_cons, (digits _ some).1]
            rfl
      · exact Or.inl rfl
    · exact Or.inl rfl
  · exact Or.inl rfl

--------------------------------------------------------------------------------
-- Whole numbers
--------------------------------------------------------------------------------

/-- A mantissa starts with a digit or a point. -/
theorem IsMantissa.head {mantissa : List Char} (is : IsMantissa mantissa)
    : ∃ first others, mantissa = first :: others ∧ (first.isDigit = true ∨ first = '.') := by
  rcases is with ⟨some, digits⟩ | ⟨whole, fraction, rfl, digits, _⟩
  · obtain ⟨first, others, rfl⟩ := List.exists_cons_of_ne_nil some
    exact ⟨first, others, rfl, Or.inl (digits first List.mem_cons_self)⟩
  · cases whole with
    | nil => exact ⟨'.', fraction, rfl, Or.inr rfl⟩
    | cons first others => exact ⟨first, _, rfl, Or.inl (digits first List.mem_cons_self)⟩

/-- The length of the sign that a text starts with. -/
def signLength (text : List Char) : Nat :=
  match text with
  | c :: _ => if c = '+' || c = '-' then 1 else 0
  | [] => 0

theorem numberLength_eq (text : List Char)
    : numberLength text
      = if mantissaLength (text.drop (signLength text)) = 0 then 0
        else
          signLength text + mantissaLength (text.drop (signLength text))
            + exponentLength
                (text.drop (signLength text + mantissaLength (text.drop (signLength text)))) :=
  rfl

/-- The sign is found in front of a mantissa. -/
theorem signLength_append {sign mantissa : List Char} (isSign : IsSign sign)
    (is : IsMantissa mantissa) (after : List Char)
    : signLength (sign ++ (mantissa ++ after)) = sign.length := by
  rcases isSign with rfl | rfl | rfl
  · obtain ⟨first, others, rfl, kind⟩ := is.head
    have noSign : ¬(first = '+' ∨ first = '-') := by
      rintro (rfl | rfl) <;> rcases kind with digit | point
      · exact absurd digit (by decide)
      · exact absurd point (by decide)
      · exact absurd digit (by decide)
      · exact absurd point (by decide)
    simp [signLength, noSign]
  · rfl
  · rfl

theorem isSign_take (text : List Char) : IsSign (text.take (signLength text)) := by
  unfold signLength
  split
  · rename_i c _
    split
    · rename_i isSign
      exact Or.inr (by simpa using isSign)
    · exact Or.inl rfl
  · exact Or.inl rfl

/-- Does a number end before the text? -/
def endsNumber (text : List Char) : Bool :=
  endsMantissa text && exponentLength text == 0

/-- A mantissa ends before an exponent. -/
theorem endsMantissa_exponent {letter : Char} (isLetter : letter = 'e' ∨ letter = 'E')
    (after : List Char)
    : endsMantissa (letter :: after) = true := by
  rcases isLetter with rfl | rfl <;> rfl

/-- The text of a number is found in front of a text that does not continue it. -/
theorem numberLength_append {number after : List Char} (is : IsNumber number)
    (ends : endsNumber after = true)
    : numberLength (number ++ after) = number.length := by
  obtain ⟨sign, mantissa, exponent, rfl, isSign, isMantissa, isExponent⟩ := is
  simp only [endsNumber, Bool.and_eq_true, beq_iff_eq] at ends
  have starts : endsMantissa (exponent ++ after) = true := by
    rcases isExponent with rfl | ⟨letter, _, _, rfl, isLetter, _, _⟩
    · exact ends.1
    · exact endsMantissa_exponent isLetter _
  have length : exponentLength (exponent ++ after) = exponent.length := by
    rcases isExponent with rfl | ⟨letter, inner, digits, rfl, isLetter, isSign, are⟩
    · exact ends.2
    · have stops : endsRun Char.isDigit after = true := by
        have := ends.1
        simp only [endsMantissa, Bool.and_eq_true] at this
        exact this.1
      rw [exponentLength_append isLetter isSign are stops]
      simp
      omega
  have found := mantissaLength_append isMantissa starts
  have some : mantissa.length ≠ 0 := by
    obtain ⟨first, others, rfl, _⟩ := isMantissa.head
    simp
  rw [numberLength_eq, List.append_assoc, List.append_assoc,
    signLength_append isSign isMantissa, List.drop_left, found, if_neg some,
    List.drop_length_add_append, List.drop_left, length]
  simp [Nat.add_assoc]

/-- What is taken for a number is one. -/
theorem isNumber_take {text : List Char} (some : numberLength text ≠ 0)
    : IsNumber (text.take (numberLength text)) := by
  rw [numberLength_eq] at some ⊢
  split at some
  · exact absurd rfl some
  · rename_i mantissa
    rw [if_neg mantissa]
    refine ⟨text.take (signLength text),
      (text.drop (signLength text)).take (mantissaLength (text.drop (signLength text))),
      (text.drop (signLength text + mantissaLength (text.drop (signLength text)))).take
        (exponentLength
          (text.drop (signLength text + mantissaLength (text.drop (signLength text))))),
      ?_, isSign_take text, isMantissa_take mantissa, isExponent_take _⟩
    rw [Nat.add_assoc, List.take_add, List.take_add, List.drop_drop]

--------------------------------------------------------------------------------
-- Ranges of code points
--------------------------------------------------------------------------------

/-- Does a code point in hexadecimal digits, a lone one or the last of a range, end before the
text? -/
def endsRange (text : List Char) : Bool :=
  endsRun (fun c => Text.isHexDigit c || c == '?') text
    && (text.head? != some '-' || endsRun Text.isHexDigit (text.drop 1))

theorem digitsValue_append (left : List Char) (digit : Char)
    : Text.digitsValue 16 (left ++ [digit])
      = Text.digitsValue 16 left * 16 + Text.hexDigitValue digit := by
  simp [Text.digitsValue]

/-- A digit that is written has its value. -/
theorem hexDigit_digitChar {digit : Nat} (small : digit < 16)
    : Text.isHexDigit (Nat.digitChar digit).toUpper = true
      ∧ Text.hexDigitValue (Nat.digitChar digit).toUpper = digit := by
  have all
      : ∀ digit < 16,
          Text.isHexDigit (Nat.digitChar digit).toUpper = true
          ∧ Text.hexDigitValue (Nat.digitChar digit).toUpper = digit := by
    decide
  exact all digit small

/-- A code point reads back from its digits.
Witness: induction on the code point, whose last digit is its remainder.
-/
theorem digitsValue_writeCode (code : Nat)
    : Text.digitsValue 16 (writeCode code) = code
      ∧ ∀ c ∈ writeCode code, Text.isHexDigit c = true := by
  induction code using Nat.strongRecOn with
  | _ code ih =>
    unfold writeCode at ih ⊢
    by_cases small : code < 16
    · have digit := hexDigit_digitChar small
      rw [Nat.toDigits_of_lt_base small]
      simpa [Text.digitsValue] using digit.symm
    · have digit := hexDigit_digitChar (Nat.mod_lt code (by omega : 16 > 0))
      obtain ⟨value, digits⟩ := ih (code / 16) (by omega)
      rw [Nat.toDigits_of_base_le (by omega) (by omega), List.map_append, List.map_singleton,
        digitsValue_append, value, digit.2]
      refine ⟨by omega, fun c member => ?_⟩
      rcases List.mem_append.mp member with before | last
      · exact digits c before
      · rw [List.mem_singleton.mp last]
        exact digit.1

theorem length_writeCode {code : Nat} (small : code < 16 ^ 6)
    : (writeCode code).length ≤ 6 ∧ writeCode code ≠ [] := by
  unfold writeCode
  rw [List.length_map]
  exact ⟨(Nat.length_toDigits_le_iff (by omega) (by omega)).mpr small, by simp⟩

/-- The digits of a code point are found in front of a text that does not continue them. -/
theorem hexDigits_append {digits after : List Char} (hex : ∀ c ∈ digits, Text.isHexDigit c = true)
    (few : digits.length ≤ 6) (ends : endsRun Text.isHexDigit after = true)
    : ((digits ++ after).take 6).takeWhile Text.isHexDigit = digits := by
  rw [List.take_append, List.take_of_length_le few]
  refine takeWhile_append_of_endsRun hex ?_
  cases after with
  | nil => simp [endsRun]
  | cons c rest =>
    cases 6 - digits.length with
    | zero => rfl
    | succ more => simpa [endsRun] using ends

/-- The range whose first digits are read, given the text behind them. -/
def rangeBehind (digits : List Char) : List Char → Nat × Nat × Nat
  | '-' :: rest =>
    let last := (rest.take 6).takeWhile Text.isHexDigit
    if last.isEmpty then (Text.digitsValue 16 digits, Text.digitsValue 16 digits, digits.length)
    else (Text.digitsValue 16 digits, Text.digitsValue 16 last, digits.length + 1 + last.length)
  | _ => (Text.digitsValue 16 digits, Text.digitsValue 16 digits, digits.length)

/-- The digits of a code point are read in front of a text that neither continues them nor puts
marks behind them. -/
theorem readUnicodeRange_eq {digits after : List Char}
    (hex : ∀ c ∈ digits, Text.isHexDigit c = true) (few : digits.length ≤ 6)
    (ends : endsRun (fun c => Text.isHexDigit c || c == '?') after = true)
    : readUnicodeRange (digits ++ after) = rangeBehind digits after := by
  have noHex : endsRun Text.isHexDigit after = true := by
    cases after with
    | nil => rfl
    | cons c rest =>
      simp only [endsRun, List.head?_cons, Option.any_some, Bool.not_eq_true',
        Bool.or_eq_false_iff] at ends ⊢
      exact ends.1
  have found := hexDigits_append hex few noHex
  have noMarks : (((digits ++ after).take 6).drop digits.length).takeWhile (· == '?') = [] := by
    rw [List.take_append, List.take_of_length_le few, List.drop_left]
    apply takeWhile_of_endsRun
    cases after with
    | nil => simp [endsRun]
    | cons c rest =>
      cases 6 - digits.length with
      | zero => rfl
      | succ more =>
        simp only [endsRun, List.head?_cons, Option.any_some, Bool.not_eq_true',
          Bool.or_eq_false_iff, List.take_succ_cons] at ends ⊢
        exact ends.2
  unfold readUnicodeRange
  simp only [found, noMarks, List.length_nil, Nat.add_zero, List.isEmpty_nil, if_true,
    List.drop_left]
  rfl

/-- A range of code points reads back. -/
theorem readUnicodeRange_written {first last : Nat} {after : List Char} (lowest : first < 16 ^ 6)
    (highest : last < 16 ^ 6) (ends : endsRange after = true)
    : readUnicodeRange
          (writeCode first ++ ((if first = last then [] else '-' :: writeCode last) ++ after))
      = (first, last,
          (writeCode first ++ (if first = last then [] else '-' :: writeCode last)).length) := by
  simp only [endsRange, Bool.and_eq_true, Bool.or_eq_true] at ends
  obtain ⟨value, hex⟩ := digitsValue_writeCode first
  obtain ⟨few, _⟩ := length_writeCode lowest
  by_cases same : first = last
  · subst same
    rw [if_pos rfl, List.nil_append, readUnicodeRange_eq hex few ends.1, List.append_nil]
    unfold rangeBehind
    rw [value]
    split
    · rename_i rest
      have none : (rest.take 6).takeWhile Text.isHexDigit = [] := by
        have none : ∀ c ∈ ([] : List Char), Text.isHexDigit c = true := by simp
        exact hexDigits_append none (by simp) (ends.2.resolve_left (by simp))
      simp [none]
    · rfl
  · obtain ⟨lastValue, lastHex⟩ := digitsValue_writeCode last
    obtain ⟨lastFew, some⟩ := length_writeCode highest
    have noHex : endsRun Text.isHexDigit after = true := by
      cases after with
      | nil => rfl
      | cons c rest =>
        simp only [endsRun, List.head?_cons, Option.any_some, Bool.not_eq_true',
          Bool.or_eq_false_iff] at ends ⊢
        exact ends.1.1
    rw [if_neg same, List.cons_append, readUnicodeRange_eq hex few rfl]
    simp [rangeBehind, hexDigits_append lastHex lastFew noHex, some, value, lastValue]
    omega

end CriticalCss.Syntax
