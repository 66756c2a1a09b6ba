import CriticalCss.Proofs.Media.Reading
import CriticalCss.Proofs.Text.Lowering
import CriticalCss.Proofs.Tidy.Written

/-! How a family is compared. Only its words decide, so that it makes no difference how many blanks
stand between them; quotes are taken off if they enclose all of it. What cuts a list of families is
kept, and a family with words left out or added in front is another one.
-/

namespace CriticalCss.Tidy

open Written (Quote)

--------------------------------------------------------------------------------
-- Quotes
--------------------------------------------------------------------------------

/-- Does the text stand in quotes, apart from blanks around them? -/
def IsEnclosed (value : List Char) : Prop :=
  ∃ (quote : Quote) (inside : List Char),
    Text.trim value = quote.char :: (inside ++ [quote.char])

theorem isBlank_quote (quote : Quote) : Text.isBlank quote.char = false := by
  cases quote <;> decide

theorem isLowMark_quote (quote : Quote) : Text.isLowMark quote.char = true := by
  cases quote <;> decide

theorem unquote_of_enclosed {value inside : List Char} {quote : Quote}
    (enclosed : Text.trim value = quote.char :: (inside ++ [quote.char]))
    : unquote value = inside := by
  have isQuote : (quote.char = '\'' || quote.char = '"') = true := by cases quote <;> decide
  obtain ⟨second, rest, behind⟩ : ∃ second rest, inside ++ [quote.char] = second :: rest :=
    List.exists_cons_of_ne_nil (by simp)
  have last : (second :: rest).getLast? = some quote.char := by rw [← behind, List.getLast?_concat]
  rw [behind] at enclosed
  simp only [unquote, enclosed, isQuote, last, decide_true, Bool.and_true, if_true]
  rw [← behind, List.dropLast_concat]

theorem unquote_of_not_isEnclosed {value : List Char} (bare : ¬IsEnclosed value)
    : unquote value = Text.trim value := by
  simp only [unquote]
  split
  · rename_i first second rest trimmed
    refine if_neg fun quoted => bare ?_
    simp only [Bool.and_eq_true, Bool.or_eq_true, decide_eq_true_eq] at quoted
    obtain ⟨quote, rfl⟩ : ∃ quote : Quote, quote.char = first := by
      rcases quoted.1 with rfl | rfl
      · exact ⟨.single, rfl⟩
      · exact ⟨.double, rfl⟩
    obtain ⟨inside, ends⟩ := List.getLast?_eq_some_iff.mp quoted.2
    exact ⟨quote, inside, by rw [trimmed, ends]⟩
  · rfl

theorem collapse_of_words {left right : List Char} (same : Text.words left = Text.words right)
    : Text.collapse left = Text.collapse right := by
  rw [Text.collapse, same, Text.collapse]

theorem normalFamily_of_enclosed {value inside : List Char} {quote : Quote}
    (enclosed : Text.trim value = quote.char :: (inside ++ [quote.char]))
    : normalFamily value = Text.lower (Text.collapse inside) := by
  rw [normalFamily, unquote_of_enclosed enclosed]

theorem normalFamily_of_not_isEnclosed {value : List Char} (bare : ¬IsEnclosed value)
    : normalFamily value = Text.lower (Text.collapse value) := by
  rw [normalFamily, unquote_of_not_isEnclosed bare, collapse_of_words (Text.words_trim value)]

/-- A text that stands in quotes starts its first word with one. -/
theorem IsEnclosed.exists_word {value : List Char} (quoted : IsEnclosed value)
    : ∃ (quote : Quote) (word : List Char) (more : List (List Char)),
        Text.words value = (quote.char :: word) :: more := by
  obtain ⟨quote, inside, enclosed⟩ := quoted
  obtain ⟨word, more, found⟩ := Text.words_cons (isBlank_quote quote) (inside ++ [quote.char])
  exact ⟨quote, word, more, by rw [← Text.words_trim, enclosed, found]⟩

/-- A text that starts no word with a quote stands in none. -/
theorem not_isEnclosed_of_words {value : List Char}
    (bare : ∀ word ∈ Text.words value, ∀ quote : Quote, word.head? ≠ some quote.char)
    : ¬IsEnclosed value := by
  intro quoted
  obtain ⟨quote, word, more, found⟩ := quoted.exists_word
  exact bare (quote.char :: word) (found ▸ List.mem_cons_self) quote rfl

/-- Texts with the same words stand in the same quotes. -/
theorem exists_enclosed_of_words {left right inside : List Char} {quote : Quote}
    (same : Text.words left = Text.words right)
    (enclosed : Text.trim left = quote.char :: (inside ++ [quote.char]))
    : ∃ other,
        Text.trim right = quote.char :: (other ++ [quote.char])
        ∧ Text.words other = Text.words inside := by
  refine Text.exists_enclosed (isBlank_quote quote) ?_ ?_
  · exact Text.trim_of_ends (Text.isBlank_ends_trim right).1 (Text.isBlank_ends_trim right).2
  · rw [Text.words_trim, ← same, ← Text.words_trim, enclosed]

/-- Families with the same words are compared as the same. -/
theorem normalFamily_of_words {left right : List Char} (same : Text.words left = Text.words right)
    : normalFamily left = normalFamily right := by
  by_cases quoted : IsEnclosed left
  · obtain ⟨quote, inside, enclosed⟩ := quoted
    obtain ⟨other, enclosed', words⟩ := exists_enclosed_of_words same enclosed
    rw [normalFamily_of_enclosed enclosed, normalFamily_of_enclosed enclosed',
      collapse_of_words words]
  · have bare : ¬IsEnclosed right := by
      rintro ⟨quote, inside, enclosed⟩
      obtain ⟨other, enclosed', _⟩ := exists_enclosed_of_words same.symm enclosed
      exact quoted ⟨quote, other, enclosed'⟩
    rw [normalFamily_of_not_isEnclosed quoted, normalFamily_of_not_isEnclosed bare,
      collapse_of_words same]

/-- A text without words is compared as nothing. -/
theorem normalFamily_of_no_words {value : List Char} (none : Text.words value = [])
    : normalFamily value = [] := by
  have same : Text.words value = Text.words [] := none
  rw [normalFamily_of_words same]
  decide

--------------------------------------------------------------------------------
-- Marks that are kept
--------------------------------------------------------------------------------

section Kept

variable {test : Char → Bool} (low : ∀ c, test c = true → Text.isLowMark c = true)

include low

theorem filter_lower (text : List Char) : (Text.lower text).filter test = text.filter test := by
  have only (chars : List Char)
      : (chars.filter Text.isLowMark).filter test = chars.filter test := by
    rw [List.filter_filter]
    refine List.filter_congr fun c _ => ?_
    cases found : test c with
    | true => rw [low c found, Bool.and_self]
    | false => rfl
  rw [← only, Text.filter_isLowMark_lower, only]

/-- The marks of a text are those of its words. -/
theorem filter_flatten_words (text : List Char)
    : (Text.words text).flatten.filter test = text.filter test := by
  have noBlank (c : Char) (mark : Text.isLowMark c = true) : Text.isBlank c = false := by
    simp only [Text.isLowMark, Bool.and_eq_true, decide_eq_true_eq] at mark
    simp [Text.isBlank]
    omega
  rw [Text.flatten_words, List.filter_filter]
  refine List.filter_congr fun c _ => ?_
  cases found : test c with
  | true => rw [noBlank c (low c found), Bool.not_false, Bool.and_self]
  | false => rfl

theorem filter_lower_collapse (text : List Char)
    : (Text.lower (Text.collapse text)).filter test = text.filter test := by
  rw [filter_lower low, ← filter_flatten_words low, Text.words_collapse, filter_flatten_words low]

theorem filter_trim (text : List Char) : (Text.trim text).filter test = text.filter test := by
  rw [← filter_flatten_words low, Text.words_trim, filter_flatten_words low]

/-- Quotes that are taken off take no other marks with them. -/
theorem filter_unquote (noQuote : ∀ quote : Quote, test quote.char = false) (value : List Char)
    : (unquote value).filter test = value.filter test := by
  by_cases quoted : IsEnclosed value
  · obtain ⟨quote, inside, enclosed⟩ := quoted
    rw [unquote_of_enclosed enclosed, ← filter_trim low value, enclosed]
    simp [noQuote]
  · rw [unquote_of_not_isEnclosed quoted, filter_trim low]

end Kept

theorem isLowMark_of_beq (quote : Quote) (c : Char) (same : (c == quote.char) = true)
    : Text.isLowMark c = true := by
  rw [eq_of_beq same]
  exact isLowMark_quote quote

theorem mem_lower_collapse_iff (quote : Quote) (text : List Char)
    : quote.char ∈ Text.lower (Text.collapse text) ↔ quote.char ∈ text := by
  have kept := filter_lower_collapse (isLowMark_of_beq quote) text
  have holds (chars : List Char)
      : quote.char ∈ chars ↔ quote.char ∈ chars.filter (· == quote.char) := by
    simp
  rw [holds, kept, ← holds]

theorem count_flatten_words (quote : Quote) (text : List Char)
    : (Text.words text).flatten.count quote.char = text.count quote.char := by
  rw [List.count_eq_length_filter, List.count_eq_length_filter,
    filter_flatten_words (isLowMark_of_beq quote)]

theorem isLowMark_of_isStructural (c : Char) (cuts : Text.isStructural c = true)
    : Text.isLowMark c = true := by
  simp only [Text.isStructural, Bool.or_eq_true, beq_iff_eq] at cuts
  rcases cuts with (rfl | rfl) | rfl <;> decide

theorem foldl_depthAfter_words (text : List Char) (depth : Nat)
    : (Text.words text).flatten.foldl Text.depthAfter depth = text.foldl Text.depthAfter depth := by
  rw [← Text.foldl_depthAfter_filter, filter_flatten_words isLowMark_of_isStructural,
    Text.foldl_depthAfter_filter]

theorem outerCommas_words (text : List Char) (depth : Nat)
    : Text.outerCommas depth (Text.words text).flatten = Text.outerCommas depth text := by
  rw [← Text.outerCommas_filter, filter_flatten_words isLowMark_of_isStructural,
    Text.outerCommas_filter]

/-- Quotes cut no list. -/
theorem isStructural_quote (quote : Quote) : Text.isStructural quote.char = false := by
  cases quote <;> decide

/-- What cuts a list is the same before and after. -/
theorem filter_isStructural_normalFamily (value : List Char)
    : (normalFamily value).filter Text.isStructural = value.filter Text.isStructural := by
  rw [normalFamily, filter_lower_collapse isLowMark_of_isStructural,
    filter_unquote isLowMark_of_isStructural isStructural_quote]

theorem outerCommas_normalFamily (value : List Char) (depth : Nat)
    : Text.outerCommas depth (normalFamily value) = Text.outerCommas depth value := by
  rw [← Text.outerCommas_filter, filter_isStructural_normalFamily, Text.outerCommas_filter]

--------------------------------------------------------------------------------
-- Families as they are written
--------------------------------------------------------------------------------

/-- No piece of the text between blanks starts with a quote. -/
def OpensBare (text : List Char) : Prop :=
  ∀ piece ∈ Text.splitWhere Text.isBlank text, ∀ quote : Quote, piece.head? ≠ some quote.char

theorem opensBare_nil : OpensBare [] := by
  intro piece member
  obtain rfl : piece = [] := List.mem_singleton.mp member
  simp

theorem opensBare_cons {c : Char} {rest : List Char} (bare : ∀ quote : Quote, c ≠ quote.char)
    (later : OpensBare rest)
    : OpensBare (c :: rest) := by
  intro piece member quote
  rw [Text.splitWhere] at member
  split at member
  · rcases List.mem_cons.mp member with rfl | behind
    · simp
    · exact later piece behind quote
  · obtain ⟨first, others, pieces⟩ :=
      List.exists_cons_of_ne_nil (Text.splitWhere_ne_nil Text.isBlank rest)
    rw [pieces] at member
    rcases List.mem_cons.mp member with rfl | behind
    · simpa using bare quote
    · exact later piece (pieces ▸ List.mem_cons_of_mem first behind) quote

/-- A quote behind a backslash does not start a piece. -/
theorem opensBare_escape (c : Char) {rest : List Char} (later : OpensBare rest)
    : OpensBare ('\\' :: c :: rest) := by
  have bare (quote : Quote) : '\\' ≠ quote.char := by cases quote <;> decide
  by_cases quoted : ∃ quote : Quote, c = quote.char
  · obtain ⟨mark, rfl⟩ := quoted
    intro piece member quote
    obtain ⟨first, others, pieces⟩ :=
      List.exists_cons_of_ne_nil (Text.splitWhere_ne_nil Text.isBlank rest)
    have inside : Text.isBlank '\\' = false := by decide
    rw [Text.splitWhere, Text.splitWhere, if_neg (by simp [inside]),
      if_neg (by simp [isBlank_quote]), pieces] at member
    rcases List.mem_cons.mp member with rfl | behind
    · simpa using bare quote
    · exact later piece (pieces ▸ List.mem_cons_of_mem first behind) quote
  · exact opensBare_cons bare (opensBare_cons (fun quote same => quoted ⟨quote, same⟩) later)

theorem OpensBare.words {value word : List Char} (bare : OpensBare value)
    (member : word ∈ Text.words value) (quote : Quote)
    : word.head? ≠ some quote.char :=
  bare word (List.mem_filter.mp member).1 quote

namespace Written

theorem opensBare_append {front rest : List Char}
    (bare : ∀ c ∈ front, ∀ quote : Quote, c ≠ quote.char) (later : OpensBare rest)
    : OpensBare (front ++ rest) := by
  induction front with
  | nil => exact later
  | cons c others ih =>
    rw [List.forall_mem_cons] at bare
    exact opensBare_cons bare.1 (ih bare.2)

theorem opensBare_gap (gap : Media.Written.Gap) {rest : List Char} (later : OpensBare rest)
    : OpensBare (gap.chars ++ rest) := by
  refine opensBare_append ?_ later
  rintro c member quote rfl
  have blank := gap.isBlank quote.char member
  rw [isBlank_quote] at blank
  cases blank

theorem Letter.opensBare (letter : Letter) {rest : List Char} (later : OpensBare rest)
    : OpensBare (letter.text ++ rest) := by
  cases letter with
  | plain c fits =>
    refine opensBare_cons ?_ later
    rintro quote rfl
    cases quote with
    | single => exact absurd fits (by decide)
    | double => exact absurd fits (by decide)
  | escaped c fits => exact opensBare_escape c later
  | coded digits fits space one =>
    rw [Letter.text, List.cons_append, List.append_assoc]
    refine opensBare_cons ?_ (opensBare_append ?_ (opensBare_gap space later))
    · intro quote
      cases quote with
      | single => decide
      | double => decide
    · rintro c member quote rfl
      have digit := fits quote.char member
      cases quote with
      | single => exact absurd digit (by decide)
      | double => exact absurd digit (by decide)

theorem Identifier.opensBare (identifier : Identifier) {rest : List Char} (later : OpensBare rest)
    : OpensBare (identifier.text ++ rest) := by
  rw [Identifier.text]
  induction identifier.letters with
  | nil => exact later
  | cons letter others ih =>
    rw [List.flatMap_cons, List.append_assoc]
    exact letter.opensBare ih

theorem Family.opensBare (first : Identifier) (others : List (Media.Written.Break × Identifier))
    : OpensBare (Family.named first others).text := by
  refine first.opensBare ?_
  induction others with
  | nil => exact opensBare_nil
  | cons other more ih =>
    rw [List.flatMap_cons, List.append_assoc]
    exact opensBare_gap other.1.toGap (other.2.opensBare ih)

/-- Nothing is trimmed off a text in quotes. -/
theorem trim_quoted (quote : Quote) (inside : List Char)
    : Text.trim (quote.char :: (inside ++ [quote.char]))
      = quote.char :: (inside ++ [quote.char]) := by
  refine Text.trim_of_ends ?_ ?_
  · rintro c same
    cases same
    exact isBlank_quote quote
  · rintro c same
    rw [← List.cons_append, List.getLast?_concat] at same
    cases same
    exact isBlank_quote quote

theorem Family.normalFamily_text (family : Family) : normalFamily family.text = family.normal := by
  cases family with
  | quoted quote inside fits => exact normalFamily_of_enclosed (trim_quoted quote inside)
  | named first others =>
    apply normalFamily_of_not_isEnclosed
    apply not_isEnclosed_of_words
    intro word member
    exact (opensBare first others).words member

theorem Item.words_text (item : Item) : Text.words item.text = Text.words item.family.text := by
  rw [Item.text, Text.words_append_blanks item.after.isBlank,
    Text.words_blanks_append item.before.isBlank]

theorem Item.normalFamily_text (item : Item) : normalFamily item.text = item.family.normal := by
  rw [normalFamily_of_words item.words_text, Family.normalFamily_text]

--------------------------------------------------------------------------------
-- Families with other words
--------------------------------------------------------------------------------

theorem intercalate_suffix (mark : List Char) (more pieces : List (List Char))
    : mark.intercalate pieces <:+ mark.intercalate (more ++ pieces) := by
  induction more with
  | nil => exact List.suffix_refl _
  | cons first others ih =>
    refine ih.trans ?_
    cases rest : others ++ pieces with
    | nil => exact List.nil_suffix
    | cons next behind =>
      rw [List.cons_append, rest, Text.intercalate_cons, ← List.append_assoc]
      exact List.suffix_append _ _

/-- Words in front of a text make it another one, also in lower case: it is longer. -/
theorem lower_collapse_ne {text longer : List Char} {more : List (List Char)} (some : more ≠ [])
    (words : Text.words longer = more ++ Text.words text)
    : Text.lower (Text.collapse longer) ≠ Text.lower (Text.collapse text) := by
  obtain ⟨first, others, rfl⟩ := List.exists_cons_of_ne_nil some
  have filled : first ≠ [] :=
    (Text.of_mem_words (words ▸ List.mem_append_left _ List.mem_cons_self)).1
  obtain ⟨front, whole⟩ := intercalate_suffix [' '] others (Text.words text)
  have joined : ∃ added ≠ [], Text.collapse longer = added ++ Text.collapse text := by
    rw [Text.collapse, Text.collapse, words, List.cons_append]
    cases rest : others ++ Text.words text with
    | nil =>
      obtain ⟨rfl, none⟩ := List.append_eq_nil_iff.mp rest
      exact ⟨first, filled, by simp [none, List.intercalate]⟩
    | cons next behind =>
      rw [Text.intercalate_cons, ← rest, ← whole]
      exact ⟨first ++ ([' '] ++ front), by simp [filled], by simp⟩
  obtain ⟨added, some, joined⟩ := joined
  intro same
  have lengths := congrArg List.length same
  rw [joined, Text.length_lower, Text.length_lower, List.length_append, List.count_append]
    at lengths
  have positive := List.length_pos_of_ne_nil some
  omega

/-- A family is not that of a text with further words in front, if these have no quotes. -/
theorem Family.normalFamily_ne_of_more (family : Family) {text : List Char}
    {more : List (List Char)} (some : more ≠ [])
    (unquoted : ∀ word ∈ more, ∀ quote : Quote, quote.char ∉ word)
    (words : Text.words text = more ++ Text.words family.text)
    : normalFamily text ≠ family.normal := by
  have bare : ¬IsEnclosed text := by
    intro quoted
    obtain ⟨quote, word, behind, found⟩ := quoted.exists_word
    obtain ⟨first, others, rfl⟩ := List.exists_cons_of_ne_nil some
    rw [words, List.cons_append, List.cons.injEq] at found
    apply unquoted first List.mem_cons_self quote
    rw [found.1]
    exact List.mem_cons_self
  rw [normalFamily_of_not_isEnclosed bare]
  cases family with
  | quoted quote inside fits =>
    have inText : quote.char ∈ text := by
      rw [← List.count_pos_iff, ← count_flatten_words, words, List.flatten_append,
        List.count_append, count_flatten_words]
      simp [Family.text]
    intro same
    have left := (mem_lower_collapse_iff quote text).mpr inText
    rw [same] at left
    exact (fits _ ((mem_lower_collapse_iff quote inside).mp left)).1 rfl
  | named first others => exact lower_collapse_ne some words

/-- Words that end with those of another text end with its last character. -/
theorem concat_of_words {c : Char} (inside : Text.isBlank c = false) (front : List Char)
    {text : List Char} {less : List (List Char)} (some : Text.words text ≠ [])
    (words : Text.words (front ++ [c]) = less ++ Text.words text)
    : ∃ others last, Text.words text = others ++ [last ++ [c]] := by
  obtain ⟨before, last, found, _⟩ := Text.exists_words_concat inside front
  obtain none | ⟨others, own, whole⟩ := List.eq_nil_or_concat (Text.words text)
  · exact absurd none some
  · rw [List.concat_eq_append] at whole
    rw [found, whole, ← List.append_assoc] at words
    obtain ⟨_, same⟩ := List.append_inj' words rfl
    exact ⟨others, last, by rw [whole, same]⟩

/-- Without its first words a text in quotes has one of them only, and keeps it. -/
theorem mem_normalFamily_of_less {quote : Quote} {inside text : List Char}
    {less : List (List Char)} (free : quote.char ∉ inside) (some : less ≠ [])
    (filled : Text.words text ≠ [])
    (words : Text.words (quote.char :: (inside ++ [quote.char])) = less ++ Text.words text)
    : quote.char ∈ normalFamily text := by
  obtain ⟨start, more, first⟩ := Text.words_cons (isBlank_quote quote) (inside ++ [quote.char])
  obtain ⟨others, last, ends⟩ :=
    concat_of_words (isBlank_quote quote) (quote.char :: inside) filled words
  have inText : 0 < text.count quote.char := by
    rw [← count_flatten_words, ends]
    simp
  have single : text.count quote.char ≤ 1 := by
    have total := congrArg (fun found => found.flatten.count quote.char) words
    obtain ⟨head, tail, rfl⟩ := List.exists_cons_of_ne_nil some
    rw [first, List.cons_append, List.cons.injEq] at words
    obtain ⟨rfl, _⟩ := words
    simp only [List.flatten_append, List.count_append, count_flatten_words, List.flatten_cons,
      List.count_cons_self, List.count_nil, List.count_eq_zero.mpr free] at total
    omega
  have bare : ¬IsEnclosed text := by
    rintro ⟨other, between, enclosed⟩
    have same : other.char = quote.char := by
      obtain ⟨front, ending, found, _⟩ :=
        Text.exists_words_concat (isBlank_quote other) (other.char :: between)
      rw [List.cons_append, ← enclosed, Text.words_trim, ends] at found
      obtain ⟨_, lasts⟩ := List.append_inj' found rfl
      exact (List.singleton_inj.mp
        (List.append_inj' (List.singleton_inj.mp lasts) rfl).2).symm
    rw [← count_flatten_words, ← Text.words_trim, count_flatten_words, enclosed, same] at single
    simp at single
  rw [normalFamily_of_not_isEnclosed bare, mem_lower_collapse_iff]
  exact List.count_pos_iff.mp inText

/-- A family is not that of a text without its first words. -/
theorem Family.normalFamily_ne_of_less (family : Family) (named : family.normal ≠ [])
    {text : List Char} {less : List (List Char)} (some : less ≠ [])
    (words : Text.words family.text = less ++ Text.words text)
    : normalFamily text ≠ family.normal := by
  cases family with
  | quoted quote inside fits =>
    have free : quote.char ∉ inside := fun member => (fits _ member).1 rfl
    intro same
    have filled : Text.words text ≠ [] := by
      intro none
      exact named (same ▸ normalFamily_of_no_words none)
    have kept := mem_normalFamily_of_less free some filled words
    rw [same] at kept
    exact free ((mem_lower_collapse_iff quote inside).mp kept)
  | named first others =>
    have bare : ¬IsEnclosed text := by
      apply not_isEnclosed_of_words
      intro word member
      apply (opensBare first others).words
      rw [words]
      exact List.mem_append_right less member
    rw [normalFamily_of_not_isEnclosed bare]
    exact (lower_collapse_ne some words).symm

end Written

end CriticalCss.Tidy
