import CriticalCss.Proofs.Decimal.Rounding
import CriticalCss.Proofs.Media.Written
import CriticalCss.Proofs.Text.Lowering
import Mathlib.Data.Bool.AllAny

/-! Lengths as they are read. A length is read only without a sign and an exponent, in pixels or in
ems, and what is read is its value after rounding. That is in no case beyond a size that the length
itself is not beyond.
-/

namespace CriticalCss.Media.Written

open Decimal

--------------------------------------------------------------------------------
-- Characters
--------------------------------------------------------------------------------

/-- A character that lengths are written with. -/
def isLengthChar (c : Char) : Bool :=
  c.isDigit || ('a' ≤ c && c ≤ 'z') || c == '+' || c == '-' || c == '.'

/-- A character that may stand for itself: it ends no word and no piece, and has no capital for its
lower case. -/
structure IsPlain (c : Char) : Prop where
  ascii : c.toNat < 128
  inside : Text.isBlank c = false
  free : c ≠ ',' ∧ c ≠ '(' ∧ c ≠ ')'
  small : c.toLower = c

instance (c : Char) : Decidable (IsPlain c) :=
  decidable_of_iff
    (c.toNat < 128 ∧ Text.isBlank c = false ∧ (c ≠ ',' ∧ c ≠ '(' ∧ c ≠ ')') ∧ c.toLower = c)
    ⟨fun ⟨ascii, inside, free, small⟩ => ⟨ascii, inside, free, small⟩,
      fun is => ⟨is.ascii, is.inside, is.free, is.small⟩⟩

theorem toNat_lt_of_isLengthChar {c : Char} (is : isLengthChar c = true) : c.toNat < 128 := by
  simp only [isLengthChar, Bool.or_eq_true, Bool.and_eq_true, beq_iff_eq, decide_eq_true_eq,
    Syntax.isDigit_iff, Char.le_def, UInt32.le_iff_toNat_le] at is
  rcases is with (((digit | letter) | rfl) | rfl) | rfl
  · omega
  · have : c.val.toNat ≤ 122 := letter.2
    exact Nat.lt_of_le_of_lt this (by decide)
  all_goals decide

theorem isPlain_of_isLengthChar {c : Char} (is : isLengthChar c = true) : IsPlain c :=
  Text.forall_ascii (P := fun c => isLengthChar c = true → IsPlain c) (by decide)
    (toNat_lt_of_isLengthChar is) is

theorem isLengthChar_of_isDigit {c : Char} (digit : c.isDigit = true) : isLengthChar c = true := by
  simp [isLengthChar, digit]

theorem Mantissa.isLengthChar_of_mem (mantissa : Mantissa) {c : Char} (member : c ∈ mantissa.text)
    : isLengthChar c = true := by
  cases mantissa with
  | whole digits => exact isLengthChar_of_isDigit (digits.digits c member)
  | fraction front places =>
    rcases List.mem_append.mp member with inFront | behind
    · cases front with
      | none => cases inFront
      | some digits => exact isLengthChar_of_isDigit (digits.digits c inFront)
    · rcases List.mem_cons.mp behind with rfl | inPlaces
      · rfl
      · exact isLengthChar_of_isDigit (places.digits c inPlaces)

theorem isLengthChar_of_mem_sign {sign : Option Sign} {c : Char}
    (member : c ∈ (sign.map (·.char)).toList)
    : isLengthChar c = true := by
  rcases sign with _ | _ | _
  · cases member
  · obtain rfl := List.mem_singleton.mp member
    rfl
  · obtain rfl := List.mem_singleton.mp member
    rfl

theorem Exponent.isLengthChar_of_mem (exponent : Exponent) {c : Char} (member : c ∈ exponent.text)
    : isLengthChar c = true := by
  rcases List.mem_cons.mp member with rfl | behind
  · rfl
  · rcases List.mem_append.mp behind with inSign | inDigits
    · exact isLengthChar_of_mem_sign inSign
    · exact isLengthChar_of_isDigit (exponent.digits.digits c inDigits)

/-- What is the same as a word when case is ignored, and has no capitals, is the word. -/
theorem eq_of_dropWordIgnoringCase {word text : List Char} (own : ∀ c ∈ word, IsPlain c)
    (plain : ∀ c ∈ text, IsPlain c) (same : Text.dropWordIgnoringCase word text = some [])
    : text = word := by
  induction word generalizing text with
  | nil => exact Option.some.inj same
  | cons w word ih =>
    cases text with
    | nil => cases same
    | cons c text =>
      rw [List.forall_mem_cons] at own plain
      rw [Text.dropWordIgnoringCase] at same
      split at same
      · rename_i equal
        rw [Text.sameIgnoringCase, Text.caseKey_of_toLower own.1.ascii own.1.small,
          Text.caseKey_of_toLower plain.1.ascii plain.1.small, beq_iff_eq] at equal
        rw [ih own.2 plain.2 same, equal]
      · cases same

theorem eq_of_isWordIgnoringCase {word : String} {text : List Char}
    (own : ∀ c ∈ word.toList, IsPlain c) (plain : ∀ c ∈ text, IsPlain c)
    (same : isWordIgnoringCase word text = true)
    : text = word.toList :=
  eq_of_dropWordIgnoringCase own plain (by simpa [isWordIgnoringCase] using same)

namespace Length

variable {length : Length} {screen : Screen}

theorem isLengthChar_of_mem_ending {c : Char} (member : c ∈ length.ending)
    : isLengthChar c = true := by
  rcases List.mem_append.mp member with inExponent | inUnit
  · cases power : length.exponent with
    | none =>
      rw [power] at inExponent
      cases inExponent
    | some exponent =>
      rw [power] at inExponent
      exact exponent.isLengthChar_of_mem inExponent
  · obtain ⟨low, high⟩ := length.letters c inUnit
    simp [isLengthChar, low, high]

theorem isLengthChar_of_mem {c : Char} (member : c ∈ length.text) : isLengthChar c = true := by
  rcases List.mem_append.mp member with inSign | behind
  · exact isLengthChar_of_mem_sign inSign
  · rcases List.mem_append.mp behind with inMantissa | inEnding
    · exact length.mantissa.isLengthChar_of_mem inMantissa
    · exact isLengthChar_of_mem_ending inEnding

theorem isBlank_of_mem {c : Char} (member : c ∈ length.text) : Text.isBlank c = false :=
  (isPlain_of_isLengthChar (isLengthChar_of_mem member)).inside

/-- There is nothing around a length to trim. -/
theorem trim_text (length : Length) : Text.trim length.text = length.text :=
  Text.trim_of_ends (fun _ first => isBlank_of_mem (List.mem_of_head? first))
    (fun _ last => isBlank_of_mem (List.mem_of_getLast? last))

theorem text_ne_nil (length : Length) : length.text ≠ [] := by
  intro nothing
  obtain ⟨-, none⟩ := List.append_eq_nil_iff.mp nothing
  obtain ⟨none, -⟩ := List.append_eq_nil_iff.mp none
  cases mantissa : length.mantissa with
  | whole digits =>
    rw [mantissa] at none
    exact digits.some none
  | fraction front places =>
    rw [mantissa] at none
    exact List.cons_ne_nil _ _ (List.append_eq_nil_iff.mp none).2

--------------------------------------------------------------------------------
-- Reading numbers
--------------------------------------------------------------------------------

/-- Neither a digit nor a point goes on behind the mantissa. -/
theorem not_digit_of_head?_ending {c : Char} (first : c ∈ length.ending.head?)
    : c.isDigit = false ∧ c ≠ '.' := by
  have letter : 'a' ≤ c ∧ c ≤ 'z' := by
    cases power : length.exponent with
    | none =>
      refine length.letters c (List.mem_of_head? ?_)
      rwa [ending, power] at first
    | some exponent =>
      rw [ending, power] at first
      cases first
      decide
  constructor
  · refine Bool.eq_false_iff.mpr fun digit => ?_
    rw [Syntax.isDigit_iff] at digit
    have low : 97 ≤ c.toNat := letter.1
    omega
  · rintro rfl
    exact absurd letter.1 (by decide)

/-- Behind a sign no number is read. -/
theorem readNumber_of_sign {sign : Sign} (signed : length.sign = some sign)
    : readNumber length.text = none := by
  rw [text, signed]
  cases sign <;> rfl

/-- Whole digits are read where nothing goes on with the number. -/
theorem readNumber_append_whole (digits : Digits) {after : List Char}
    (stop : ∀ c ∈ after.head?, c.isDigit = false ∧ c ≠ '.')
    : readNumber (digits.chars ++ after)
      = some (ofDecimal false (Text.digitsValue 10 digits.chars) 0, after) := by
  have noDigit : ∀ c ∈ after.head?, c.isDigit = false := fun c first => (stop c first).1
  have taken := Text.takeWhile_append_of_head digits.digits noDigit
  have left := Text.dropWhile_append_of_head digits.digits noDigit
  rw [readNumber]
  simp only [taken, left]
  cases after with
  | nil => simp [digits.some]
  | cons c rest =>
    have noPoint := (stop c rfl).2
    simp [noPoint, digits.some]

/-- Digits behind a point are read together with those in front of it. -/
theorem readNumber_append_fraction (front : Option Digits) (places : Digits) {after : List Char}
    (stop : ∀ c ∈ after.head?, c.isDigit = false)
    : readNumber ((Mantissa.fraction front places).text ++ after)
      = some
        (ofDecimal false (Text.digitsValue 10 (Mantissa.fraction front places).digits)
          (-(places.chars.length : Int)), after) := by
  have whole : ∀ c ∈ (front.map (·.chars)).getD [], c.isDigit = true := by
    cases front with
    | none => simp
    | some digits => exact digits.digits
  have point : ∀ c ∈ ('.' :: (places.chars ++ after)).head?, c.isDigit = false := by
    rintro c ⟨⟩
    rfl
  have taken := Text.takeWhile_append_of_head whole point
  have left := Text.dropWhile_append_of_head whole point
  have takenPlaces := Text.takeWhile_append_of_head places.digits stop
  have leftPlaces := Text.dropWhile_append_of_head places.digits stop
  rw [readNumber, Mantissa.text, List.append_assoc, List.cons_append]
  simp only [taken, left, takenPlaces, leftPlaces]
  simp [places.some, Mantissa.digits]

/-- The number of a length after rounding, if it has no sign and no exponent. -/
def rounded (length : Length) : Binary :=
  ofDecimal false (Text.digitsValue 10 length.mantissa.digits) (-(length.mantissa.places : Int))

/-- Without a sign the mantissa is read and rounded, and the rest is left. -/
theorem readNumber_of_unsigned (unsigned : length.sign = none)
    : readNumber length.text = some (length.rounded, length.ending) := by
  rw [text, unsigned, rounded]
  cases length.mantissa with
  | whole digits => exact readNumber_append_whole digits fun _ => not_digit_of_head?_ending
  | fraction front places =>
    exact readNumber_append_fraction front places fun _ first => (not_digit_of_head?_ending first).1

--------------------------------------------------------------------------------
-- Reading lengths
--------------------------------------------------------------------------------

/-- Behind the letter of an exponent stands no other letter. -/
theorem ending_of_exponent {exponent : Exponent} (power : length.exponent = some exponent)
    : ∃ c rest, length.ending = 'e' :: c :: rest ∧ c ≠ 'm' := by
  obtain ⟨sign, digits⟩ := exponent
  obtain ⟨digit, others, first⟩ := List.exists_cons_of_ne_nil digits.some
  have isDigit := digits.digits digit (by rw [first]; exact List.mem_cons_self)
  rw [ending, power]
  rcases sign with _ | _ | _
  · refine ⟨digit, others ++ length.unit, by simp [Exponent.text, first], ?_⟩
    rintro rfl
    cases isDigit
  · exact ⟨'+', digits.chars ++ length.unit, by simp [Exponent.text, Sign.char], by decide⟩
  · exact ⟨'-', digits.chars ++ length.unit, by simp [Exponent.text, Sign.char], by decide⟩

/-- What is understood behind a number is a unit, and no exponent. -/
theorem unit_of_ending {unit : List Char} (is : length.ending = unit)
    (known : unit ∈ [[], "px".toList, "em".toList, "rem".toList])
    : length.exponent = none ∧ length.unit = unit := by
  cases power : length.exponent with
  | none =>
    refine ⟨rfl, ?_⟩
    rwa [ending, power] at is
  | some exponent =>
    obtain ⟨c, rest, text, noEm⟩ := ending_of_exponent power
    rw [text] at is
    subst is
    simp [noEm] at known

/-- The value of a length without sign and exponent, without its unit. -/
theorem number_of_unsigned (unsigned : length.sign = none) (plain : length.exponent = none)
    : length.number
      = Text.digitsValue 10 length.mantissa.digits * 10 ^ (-(length.mantissa.places : Int)) := by
  simp [number, unsigned, plain, Sign.factor]

theorem isPlain_ending {c : Char} (member : c ∈ length.ending) : IsPlain c :=
  isPlain_of_isLengthChar (isLengthChar_of_mem_ending member)

theorem trimStart_ending (length : Length) : Text.trimStart length.ending = length.ending :=
  Text.dropWhile_of_head fun _ first => (isPlain_ending (List.mem_of_head? first)).inside

/-- What is understood of lengths: no sign, no exponent, and pixels or ems. -/
theorem cases_of_pixels? {pixels : Binary} (read : pixels? length.text = some pixels)
    : length.sign = none
      ∧ length.exponent = none
      ∧ ((length.unit = [] ∨ length.unit = "px".toList) ∧ pixels = length.rounded
        ∨ (length.unit = "em".toList ∨ length.unit = "rem".toList)
          ∧ pixels = length.rounded.scale rootFontPower) := by
  have unsigned : length.sign = none := by
    cases signed : length.sign with
    | none => rfl
    | some sign =>
      rw [pixels?, trim_text, readNumber_of_sign signed] at read
      cases read
  have is {word : String} (own : word.toList.all (IsPlain ·) = true)
      (same : isWordIgnoringCase word length.ending = true)
      : length.ending = word.toList :=
    eq_of_isWordIgnoringCase (List.all_iff_forall_prop.mp own) (fun _ => isPlain_ending) same
  rw [pixels?, trim_text, readNumber_of_unsigned unsigned] at read
  simp only [trimStart_ending] at read
  refine ⟨unsigned, ?_⟩
  split at read
  · rename_i inPixels
    rw [Bool.or_eq_true, List.isEmpty_iff] at inPixels
    cases read
    rcases inPixels with none | px
    · obtain ⟨plain, unit⟩ := unit_of_ending none (by simp)
      exact ⟨plain, .inl ⟨.inl unit, rfl⟩⟩
    · obtain ⟨plain, unit⟩ := unit_of_ending (is (by decide) px) (by simp)
      exact ⟨plain, .inl ⟨.inr unit, rfl⟩⟩
  · split at read
    · rename_i inEms
      rw [Bool.or_eq_true] at inEms
      cases read
      rcases inEms with em | rem
      · obtain ⟨plain, unit⟩ := unit_of_ending (is (by decide) em) (by simp)
        exact ⟨plain, .inr ⟨.inl unit, rfl⟩⟩
      · obtain ⟨plain, unit⟩ := unit_of_ending (is (by decide) rem) (by simp)
        exact ⟨plain, .inr ⟨.inr unit, rfl⟩⟩
    · cases read

/-- What is read for a length is not beyond a size that the length is not beyond. -/
theorem isWithin_of_pixels? {size : Int} {pixels : Binary}
    (whole : 0 ≤ size → IsWholeBinary size) (read : pixels? length.text = some pixels)
    (le : length.pixels screen ≤ size)
    : pixels.IsWithin size := by
  obtain ⟨unsigned, plain, units⟩ := cases_of_pixels? read
  have number := number_of_unsigned unsigned plain
  have notNegative : 0 ≤ length.number := by
    rw [number]
    positivity
  have pixelsOf (bound : ℚ) (below : length.number ≤ bound) (is : IsBinary bound)
      : length.rounded.IsWithin bound := by
    rw [number] at below
    exact isWithin_ofDecimal is below
  rcases units with ⟨unit, rfl⟩ | ⟨unit, rfl⟩
  · have own : length.pixels screen = length.number := by
      rcases unit with unit | unit <;> simp [Length.pixels, unit]
    rw [own] at le
    have wide : 0 ≤ size := by exact_mod_cast notNegative.trans le
    exact pixelsOf size le (whole wide).isBinary
  · have own : length.pixels screen = length.number * 16 := by
      rcases unit with unit | unit <;> simp [Length.pixels, unit]
    rw [own] at le
    have wide : 0 ≤ size := by exact_mod_cast (by positivity : 0 ≤ length.number * 16).trans le
    have sixteenth := (whole wide).isBinary_div (by decide : 4 ≤ 1074)
    obtain ⟨mantissa, exponent, same, below⟩ :=
      pixelsOf (size / 2 ^ 4) (by rw [le_div_iff₀ (by norm_num)]; linarith) sixteenth
    rw [same]
    refine isWithin_scale (whole wide).isBinary ?_
    rwa [le_div_iff₀ (by norm_num)] at below

end Length

end CriticalCss.Media.Written
