import CriticalCss.Text.Blank
import Mathlib.Data.List.TakeWhile

/-! Laws of cutting texts: at characters, at blanks, and at both ends. A text that is put together
from pieces which hold no place to cut falls into just these pieces.
-/

namespace CriticalCss.Text

--------------------------------------------------------------------------------
-- Pieces
--------------------------------------------------------------------------------

variable {cut : Char → Bool}

theorem splitWhere_ne_nil (cut : Char → Bool) (text : List Char) : splitWhere cut text ≠ [] := by
  induction text with
  | nil => simp [splitWhere]
  | cons c rest ih =>
    unfold splitWhere
    split
    · simp
    · unfold consFirst
      split <;> simp

/-- A character that cuts separates the pieces in front of it from those behind it. -/
theorem splitWhere_append {c : Char} (cuts : cut c = true) (front rest : List Char)
    : splitWhere cut (front ++ c :: rest) = splitWhere cut front ++ splitWhere cut rest := by
  induction front with
  | nil => simp [splitWhere, cuts]
  | cons first others ih =>
    rw [List.cons_append, splitWhere, splitWhere, ih]
    split
    · rfl
    · cases pieces : splitWhere cut others with
      | nil => exact absurd pieces (splitWhere_ne_nil cut others)
      | cons piece more => rfl

/-- A text that nothing cuts is in one piece. -/
theorem splitWhere_of_none {text : List Char} (whole : ∀ c ∈ text, cut c = false)
    : splitWhere cut text = [text] := by
  induction text with
  | nil => rfl
  | cons c rest ih =>
    rw [List.forall_mem_cons] at whole
    rw [splitWhere, if_neg (by simp [whole.1]), ih whole.2]
    rfl

/-- No piece holds a character that cuts. -/
theorem cut_of_mem_splitWhere {text piece : List Char} (member : piece ∈ splitWhere cut text)
    : ∀ c ∈ piece, cut c = false := by
  induction text generalizing piece with
  | nil =>
    obtain rfl : piece = [] := List.mem_singleton.mp member
    simp
  | cons c rest ih =>
    rw [splitWhere] at member
    split at member
    · rcases List.mem_cons.mp member with rfl | later
      · simp
      · exact ih later
    · rename_i stays
      cases pieces : splitWhere cut rest with
      | nil => exact absurd pieces (splitWhere_ne_nil cut rest)
      | cons first others =>
        rw [pieces] at ih member
        rcases List.mem_cons.mp member with rfl | later
        · rw [List.forall_mem_cons]
          exact ⟨Bool.eq_false_iff.mpr stays, ih List.mem_cons_self⟩
        · exact ih (List.mem_cons_of_mem _ later)

/-- A character that does not cut goes to the end of the last piece. -/
theorem splitWhere_concat {c : Char} (stays : cut c = false) (text : List Char)
    : ∃ front last,
        splitWhere cut text = front ++ [last]
        ∧ splitWhere cut (text ++ [c]) = front ++ [last ++ [c]] := by
  induction text with
  | nil => exact ⟨[], [], rfl, splitWhere_of_none (by simpa using stays)⟩
  | cons first rest ih =>
    obtain ⟨front, last, before, after⟩ := ih
    rw [List.cons_append, splitWhere, splitWhere, before, after]
    split
    · exact ⟨[] :: front, last, rfl, rfl⟩
    · cases front with
      | nil => exact ⟨[], first :: last, rfl, rfl⟩
      | cons piece others => exact ⟨(first :: piece) :: others, last, rfl, rfl⟩

/-- The pieces hold all characters that do not cut, in order. -/
theorem flatten_splitWhere (cut : Char → Bool) (text : List Char)
    : (splitWhere cut text).flatten = text.filter (!cut ·) := by
  induction text with
  | nil => rfl
  | cons c rest ih =>
    rw [splitWhere]
    cases cuts : cut c with
    | true => simp [cuts, ih]
    | false =>
      obtain ⟨first, others, pieces⟩ :=
        List.exists_cons_of_ne_nil (splitWhere_ne_nil cut rest)
      rw [pieces] at ih ⊢
      simpa [cuts, consFirst] using ih

--------------------------------------------------------------------------------
-- Runs of characters
--------------------------------------------------------------------------------

section Runs

variable {test : Char → Bool} {run after : List Char}

theorem takeWhile_of_head (stop : ∀ c ∈ after.head?, test c = false)
    : after.takeWhile test = [] := by
  cases after with
  | nil => rfl
  | cons c rest => exact List.takeWhile_cons_of_neg (by simp [stop c rfl])

theorem dropWhile_of_head (stop : ∀ c ∈ after.head?, test c = false)
    : after.dropWhile test = after := by
  cases after with
  | nil => rfl
  | cons c rest => exact List.dropWhile_cons_of_neg (by simp [stop c rfl])

/-- A run of characters is found in front of a text that does not continue it. -/
theorem takeWhile_append_of_head (all : ∀ c ∈ run, test c = true)
    (stop : ∀ c ∈ after.head?, test c = false)
    : (run ++ after).takeWhile test = run := by
  rw [List.takeWhile_append_of_pos all, takeWhile_of_head stop, List.append_nil]

theorem dropWhile_append_of_head (all : ∀ c ∈ run, test c = true)
    (stop : ∀ c ∈ after.head?, test c = false)
    : (run ++ after).dropWhile test = after := by
  rw [List.dropWhile_append_of_pos all, dropWhile_of_head stop]

end Runs

--------------------------------------------------------------------------------
-- Ends
--------------------------------------------------------------------------------

theorem trimEnd_append {blanks : List Char} (allBlank : ∀ c ∈ blanks, isBlank c = true)
    (text : List Char)
    : trimEnd (text ++ blanks) = trimEnd text := by
  have dropped : blanks.reverse.dropWhile isBlank = [] :=
    List.dropWhile_eq_nil_iff.mpr fun c member => allBlank c (List.mem_reverse.mp member)
  rw [trimEnd, trimEnd, List.reverse_append, List.dropWhile_append, dropped]
  rfl

/-- Blanks at the end are trimmed. -/
theorem trim_append {blanks : List Char} (allBlank : ∀ c ∈ blanks, isBlank c = true)
    (text : List Char)
    : trim (text ++ blanks) = trim text := by
  have dropped : blanks.dropWhile isBlank = [] := List.dropWhile_eq_nil_iff.mpr allBlank
  rw [trim, trim, trimStart, trimStart, List.dropWhile_append, dropped]
  split
  · rename_i nothing
    rw [List.isEmpty_iff.mp nothing]
  · exact trimEnd_append allBlank _

/-- Nothing is cut off a text that starts and ends with no blank. -/
theorem trim_of_ends {text : List Char} (start : ∀ c ∈ text.head?, isBlank c = false)
    (ends : ∀ c ∈ text.getLast?, isBlank c = false)
    : trim text = text := by
  have last : ∀ c ∈ text.reverse.head?, isBlank c = false := by rwa [List.head?_reverse]
  rw [trim, trimStart, dropWhile_of_head start, trimEnd, dropWhile_of_head last,
    List.reverse_reverse]

/-- Blanks around a text that starts and ends with none are what is trimmed. -/
theorem trim_between {before after text : List Char} (front : ∀ c ∈ before, isBlank c = true)
    (back : ∀ c ∈ after, isBlank c = true) (whole : trim text = text)
    : trim (before ++ text ++ after) = text := by
  rw [trim_append back, trim, trimStart, List.dropWhile_append_of_pos front]
  exact whole

/-- Neither the first nor the last character of a trimmed text is a blank. -/
theorem isBlank_ends_trim (text : List Char)
    : (∀ c ∈ (trim text).head?, isBlank c = false)
      ∧ ∀ c ∈ (trim text).getLast?, isBlank c = false := by
  have inside (text : List Char) : ∀ c ∈ (text.dropWhile isBlank).head?, isBlank c = false := by
    intro c first
    have stop := List.head?_dropWhile_not isBlank text
    rw [Option.mem_def.mp first] at stop
    exact stop
  have last : ∀ c ∈ (trim text).getLast?, isBlank c = false := by
    rw [trim, trimEnd, List.getLast?_reverse]
    exact inside _
  refine ⟨?_, last⟩
  intro c first
  -- The end of a text is cut off behind a character that is no blank, so not at its start.
  obtain ⟨blanks, whole⟩ : trim text <+: trimStart text := by
    rw [← List.reverse_suffix, trim, trimEnd, List.reverse_reverse]
    exact List.dropWhile_suffix _
  refine inside text c ?_
  rw [← trimStart, ← whole, List.head?_append, Option.mem_def.mp first]
  rfl

/-- A text is what is left of it when it is trimmed, between blanks. -/
theorem exists_trim (text : List Char)
    : ∃ before after : List Char,
        text = before ++ (trim text ++ after)
        ∧ (∀ c ∈ before, isBlank c = true)
        ∧ ∀ c ∈ after, isBlank c = true := by
  have back
      : trimStart text
        = trim text ++ ((trimStart text).reverse.takeWhile isBlank).reverse := by
    have whole := congrArg List.reverse
      (List.takeWhile_append_dropWhile (p := isBlank) (l := (trimStart text).reverse))
    rw [List.reverse_append, List.reverse_reverse] at whole
    exact whole.symm
  refine ⟨text.takeWhile isBlank, ((trimStart text).reverse.takeWhile isBlank).reverse, ?_, ?_, ?_⟩
  · rw [← back, trimStart, List.takeWhile_append_dropWhile]
  · intro c member
    exact List.mem_takeWhile_imp member
  · intro c member
    exact List.mem_takeWhile_imp (List.mem_reverse.mp member)

--------------------------------------------------------------------------------
-- Words
--------------------------------------------------------------------------------

/-- A blank separates the words in front of it from those behind it. -/
theorem words_append {blank : Char} (isBlank : isBlank blank = true) (front rest : List Char)
    : words (front ++ blank :: rest) = words front ++ words rest := by
  rw [words, splitWhere_append isBlank, List.filter_append]
  rfl

/-- A text without a blank is one word. -/
theorem words_of_whole {word : List Char} (filled : word ≠ [])
    (whole : ∀ c ∈ word, isBlank c = false)
    : words word = [word] := by
  rw [words, splitWhere_of_none whole]
  simp [filled]

theorem words_blanks_append {blanks : List Char} (allBlank : ∀ c ∈ blanks, isBlank c = true)
    (rest : List Char)
    : words (blanks ++ rest) = words rest := by
  induction blanks with
  | nil => rfl
  | cons blank others ih =>
    rw [List.forall_mem_cons] at allBlank
    exact (words_append allBlank.1 [] _).trans (ih allBlank.2)

/-- A word is cut off by the blanks behind it. -/
theorem words_word_append {word blanks : List Char} (filled : word ≠ [])
    (whole : ∀ c ∈ word, isBlank c = false) (some : blanks ≠ [])
    (allBlank : ∀ c ∈ blanks, isBlank c = true) (rest : List Char)
    : words (word ++ (blanks ++ rest)) = word :: words rest := by
  obtain ⟨blank, others, rfl⟩ := List.exists_cons_of_ne_nil some
  rw [List.forall_mem_cons] at allBlank
  rw [List.cons_append, words_append allBlank.1, words_of_whole filled whole,
    words_blanks_append allBlank.2]
  rfl

/-- What starts with a blank, if with anything, goes on with no word. -/
theorem words_append_of_head {rest : List Char} (stop : ∀ c ∈ rest.head?, isBlank c = true)
    (front : List Char)
    : words (front ++ rest) = words front ++ words rest := by
  cases rest with
  | nil => simp [words, splitWhere]
  | cons blank more =>
    have isBlank : isBlank blank = true := stop blank rfl
    have behind : words (blank :: more) = words more :=
      words_blanks_append (List.forall_mem_singleton.mpr isBlank) more
    rw [words_append isBlank, behind]

theorem words_append_blanks {blanks : List Char} (allBlank : ∀ c ∈ blanks, isBlank c = true)
    (text : List Char)
    : words (text ++ blanks) = words text := by
  have none : words blanks = [] := by
    have gone := words_blanks_append allBlank []
    rwa [List.append_nil] at gone
  have stop : ∀ c ∈ blanks.head?, isBlank c = true :=
    fun c first => allBlank c (List.mem_of_mem_head? first)
  rw [words_append_of_head stop, none, List.append_nil]

theorem words_trim (text : List Char) : words (trim text) = words text := by
  obtain ⟨before, after, whole, front, back⟩ := exists_trim text
  have same : words text = words (before ++ (trim text ++ after)) := congrArg words whole
  rw [same, words_blanks_append front, words_append_blanks back]

/-- A word is not empty and holds no blank. -/
theorem of_mem_words {text word : List Char} (member : word ∈ words text)
    : word ≠ [] ∧ ∀ c ∈ word, isBlank c = false := by
  obtain ⟨piece, filled⟩ := List.mem_filter.mp member
  exact ⟨by simpa using filled, cut_of_mem_splitWhere piece⟩

/-- The words of a text hold all of its characters but the blanks, in order. -/
theorem flatten_words (text : List Char)
    : (words text).flatten = text.filter (!isBlank ·) := by
  rw [← flatten_splitWhere, words]
  generalize splitWhere isBlank text = pieces
  induction pieces with
  | nil => rfl
  | cons piece others ih => cases piece <;> simp [ih]

/-- Words with one space between neighbours are found again. -/
theorem words_intercalate {found : List (List Char)}
    (whole : ∀ word ∈ found, word ≠ [] ∧ ∀ c ∈ word, isBlank c = false)
    : words ([' '].intercalate found) = found := by
  induction found with
  | nil => rfl
  | cons word rest ih =>
    rw [List.forall_mem_cons] at whole
    cases rest with
    | nil => simpa [List.intercalate] using words_of_whole whole.1.1 whole.1.2
    | cons next others =>
      have joined
          : [' '].intercalate (word :: next :: others)
            = word ++ ([' '] ++ [' '].intercalate (next :: others)) := by
        simp [List.intercalate]
      rw [joined, words_word_append whole.1.1 whole.1.2 (by simp) (by simp [isBlank]),
        ih whole.2]

theorem words_collapse (text : List Char) : words (collapse text) = words text :=
  words_intercalate fun _ => of_mem_words

/-- The first word of a text that starts with no blank, and what it is without its first character.
-/
theorem exists_words_cons {c : Char} (inside : isBlank c = false) (rest : List Char)
    : ∃ word more,
        words (c :: rest) = (c :: word) :: more
        ∧ words rest = (if word = [] then [] else [word]) ++ more := by
  have start : splitWhere isBlank (c :: rest) = consFirst c (splitWhere isBlank rest) := by
    rw [splitWhere, if_neg (by simp [inside])]
  obtain ⟨first, others, pieces⟩ := List.exists_cons_of_ne_nil (splitWhere_ne_nil isBlank rest)
  refine ⟨first, others.filter (!·.isEmpty), ?_, ?_⟩
  · rw [words, start, pieces]
    rfl
  · rw [words, pieces]
    by_cases empty : first = []
    · simp [empty]
    · simp [empty]

/-- The first word goes on as far as there is no blank. -/
theorem words_eq_cons {c : Char} (inside : isBlank c = false) (rest : List Char)
    : words (c :: rest)
      = (c :: rest.takeWhile (!isBlank ·)) :: words (rest.dropWhile (!isBlank ·)) := by
  have whole : ∀ letter ∈ c :: rest.takeWhile (!isBlank ·), isBlank letter = false := by
    rw [List.forall_mem_cons]
    exact ⟨inside, fun letter member =>
      by simpa using List.mem_takeWhile_imp (p := fun c => !isBlank c) member⟩
  have parts := List.takeWhile_append_dropWhile (p := (!isBlank ·)) (l := rest)
  have stop := List.head?_dropWhile_not (!isBlank ·) rest
  cases behind : rest.dropWhile (!isBlank ·) with
  | nil =>
    rw [behind, List.append_nil] at parts
    rw [parts] at whole ⊢
    exact words_of_whole (List.cons_ne_nil c rest) whole
  | cons blank more =>
    rw [behind] at parts stop
    have isBlank : isBlank blank = true := by simpa using stop
    have first : words (blank :: more) = words more :=
      words_blanks_append (List.forall_mem_singleton.mpr isBlank) more
    have cut : c :: rest = (c :: rest.takeWhile (!Text.isBlank ·)) ++ blank :: more :=
      congrArg (c :: ·) parts.symm
    rw [cut, words_append isBlank, words_of_whole (List.cons_ne_nil c _) whole, first]
    rfl

/-- A text that starts with no blank starts with a word. -/
theorem words_cons {c : Char} (inside : isBlank c = false) (rest : List Char)
    : ∃ word more, words (c :: rest) = (c :: word) :: more :=
  ⟨_, _, words_eq_cons inside rest⟩

/-- The last word of a text that ends with no blank, and what it is without its last character. -/
theorem exists_words_concat {c : Char} (inside : isBlank c = false) (text : List Char)
    : ∃ front word,
        words (text ++ [c]) = front ++ [word ++ [c]]
        ∧ words text = front ++ if word = [] then [] else [word] := by
  obtain ⟨front, last, before, after⟩ := splitWhere_concat inside text
  refine ⟨front.filter (!·.isEmpty), last, ?_, ?_⟩
  · rw [words, after, List.filter_append]
    simp
  · rw [words, before, List.filter_append]
    by_cases empty : last = []
    · simp [empty]
    · simp [empty]

/-- Texts in marks have the same words only if what is between the marks has. -/
theorem words_eq_of_enclosed {mark : Char} (inside : isBlank mark = false) {left right : List Char}
    (same : words (mark :: (left ++ [mark])) = words (mark :: (right ++ [mark])))
    : words left = words right := by
  have behind : words (left ++ [mark]) = words (right ++ [mark]) := by
    obtain ⟨word, more, found, rest⟩ := exists_words_cons inside (left ++ [mark])
    obtain ⟨word', more', found', rest'⟩ := exists_words_cons inside (right ++ [mark])
    rw [found, found', List.cons.injEq, List.cons.injEq] at same
    rw [rest, rest', same.1.2, same.2]
  obtain ⟨front, word, found, rest⟩ := exists_words_concat inside left
  obtain ⟨front', word', found', rest'⟩ := exists_words_concat inside right
  rw [found, found'] at behind
  obtain ⟨fronts, lasts⟩ := List.append_inj' behind rfl
  have words : word = word' := List.append_cancel_right (List.singleton_inj.mp lasts)
  rw [rest, rest', fronts, words]

/-- A trimmed text with the words of one that stands in marks stands in the same marks, and between
them it has the same words.
Witness: the first and the last character of the words, which are two different ones.
-/
theorem exists_enclosed {mark : Char} (inside : isBlank mark = false) {text inner : List Char}
    (trimmed : trim text = text) (same : words text = words (mark :: (inner ++ [mark])))
    : ∃ other, text = mark :: (other ++ [mark]) ∧ words other = words inner := by
  obtain ⟨first, last⟩ := isBlank_ends_trim text
  rw [trimmed] at first last
  obtain ⟨word, more, found, _⟩ := exists_words_cons inside (inner ++ [mark])
  obtain ⟨front, word', found', _⟩ := exists_words_concat inside (mark :: inner)
  rw [List.cons_append] at found'
  cases text with
  | nil =>
    rw [found] at same
    cases same
  | cons c rest =>
    obtain ⟨own, others, start, _⟩ := exists_words_cons (first c rfl) rest
    obtain rfl : c = mark := by
      rw [start, found, List.cons.injEq, List.cons.injEq] at same
      exact same.1.1
    rcases List.eq_nil_or_concat rest with rfl | ⟨other, d, rfl⟩
    · have count := congrArg List.length (congrArg List.flatten same)
      rw [flatten_words, flatten_words] at count
      simp [inside] at count
    · rw [List.concat_eq_append] at last same ⊢
      have ends : isBlank d = false := last d (by rw [List.getLast?_cons]; simp)
      obtain ⟨front'', word'', found'', _⟩ := exists_words_concat ends (c :: other)
      rw [List.cons_append] at found''
      obtain rfl : d = c := by
        rw [found'', found'] at same
        obtain ⟨_, lasts⟩ := List.append_inj' same rfl
        exact List.singleton_inj.mp (List.append_inj' (List.singleton_inj.mp lasts) rfl).2
      exact ⟨other, rfl, words_eq_of_enclosed inside same⟩

end CriticalCss.Text
