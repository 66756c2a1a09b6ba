import CriticalCss.Proofs.Tidy.Families

/-! Names of animations as they are written, and which of them are found in a list. An item is cut
into words, a text in quotes being one; a name is found if it is such a word and no keyword. All
that is found otherwise is shorter, or has fewer commas, than the name that is missed.
-/

namespace CriticalCss.Tidy

open Media.Written (Gap)
open Written (Quote)

--------------------------------------------------------------------------------
-- Words of an item
--------------------------------------------------------------------------------

theorem quotedAt?_quote (quote : Quote) {inside : List Char} (free : quote.char ∉ inside)
    (rest : List Char)
    : quotedAt? (quote.char :: (inside ++ quote.char :: rest))
      = some (quote.char :: (inside ++ [quote.char]), rest) := by
  have isQuote : quote.char = '"' ∨ quote.char = '\'' := by cases quote <;> decide
  have all : ∀ c ∈ inside, (c != quote.char) = true :=
    fun c member => bne_iff_ne.mpr fun same => free (same ▸ member)
  have stop : ∀ c ∈ (quote.char :: rest).head?, (c != quote.char) = false := by simp
  simp only [quotedAt?, Bool.or_eq_true, decide_eq_true_eq, isQuote, if_true,
    Text.dropWhile_append_of_head all stop, Text.takeWhile_append_of_head all stop,
    List.cons_append]

theorem exists_quote_of_quotedAt? {text word after : List Char}
    (found : quotedAt? text = some (word, after))
    : ∃ (quote : Quote) (inside : List Char),
        word = quote.char :: (inside ++ [quote.char])
        ∧ text = word ++ after := by
  unfold quotedAt? at found
  split at found
  · rename_i c rest
    split at found
    · rename_i isQuote
      obtain ⟨quote, rfl⟩ : ∃ quote : Quote, quote.char = c := by
        simp only [Bool.or_eq_true, decide_eq_true_eq] at isQuote
        rcases isQuote with rfl | rfl
        · exact ⟨.double, rfl⟩
        · exact ⟨.single, rfl⟩
      split at found
      · rename_i closing behind dropped
        simp only [Option.some.injEq, Prod.mk.injEq] at found
        obtain ⟨rfl, rfl⟩ := found
        have closes : closing = quote.char := by
          have stop := List.head?_dropWhile_not (· != quote.char) rest
          rw [dropped] at stop
          simpa using stop
        have whole := List.takeWhile_append_dropWhile (p := (· != quote.char)) (l := rest)
        rw [dropped, closes] at whole
        refine ⟨quote, rest.takeWhile (· != quote.char), by simp, ?_⟩
        rw [List.append_assoc, List.singleton_append, List.cons_append, whole]
      · cases found
    · cases found
  · cases found

theorem itemWords_blanks {blanks : List Char} (allBlank : ∀ c ∈ blanks, Text.isBlank c = true)
    (rest : List Char)
    : itemWords (blanks ++ rest) = itemWords rest := by
  induction blanks with
  | nil => rfl
  | cons c others ih =>
    rw [List.forall_mem_cons] at allBlank
    rw [List.cons_append, itemWords, if_pos allBlank.1, ih allBlank.2]

/-- A text up to the next quote of its kind is one word. -/
theorem itemWords_quoted (quote : Quote) {inside : List Char} (free : quote.char ∉ inside)
    (rest : List Char)
    : itemWords (quote.char :: (inside ++ quote.char :: rest))
      = (quote.char :: (inside ++ [quote.char])) :: itemWords rest := by
  have shorter : rest.length ≤ (inside ++ quote.char :: rest).length := by
    simp only [List.length_append, List.length_cons]
    omega
  rw [itemWords, if_neg (by simp [isBlank_quote]), quotedAt?_quote quote free]
  simp only [if_pos shorter]

/-- Where no word starts with a quote, the words are those between blanks. -/
theorem itemWords_of_bare {text : List Char}
    (bare : ∀ word ∈ Text.words text, ∀ quote : Quote, word.head? ≠ some quote.char)
    : itemWords text = Text.words text := by
  fun_induction itemWords text with
  | case1 => rfl
  | case2 c rest blank ih =>
    have behind : Text.words (c :: rest) = Text.words rest :=
      Text.words_blanks_append (List.forall_mem_singleton.mpr blank) rest
    rw [behind] at bare ⊢
    exact ih bare
  | case3 c rest inside word after found _ _ =>
    obtain ⟨quote, text, rfl, whole⟩ := exists_quote_of_quotedAt? found
    obtain ⟨start, more, words⟩ :=
      Text.words_cons (isBlank_quote quote) (text ++ [quote.char] ++ after)
    rw [whole, List.cons_append, words] at bare
    exact absurd rfl (bare _ List.mem_cons_self quote)
  | case4 c rest inside missed ih =>
    rw [Text.words_eq_cons (Bool.eq_false_iff.mpr inside)] at bare ⊢
    rw [ih fun word member => bare word (List.mem_cons_of_mem _ member)]

/-- The words of an item hold characters of it, in order. -/
theorem flatten_itemWords_sublist (text : List Char)
    : (itemWords text).flatten.Sublist text := by
  fun_induction itemWords text with
  | case1 => exact List.Sublist.refl _
  | case2 c rest _ ih => exact ih.cons c
  | case3 c rest _ word after found ih _ =>
    obtain ⟨quote, inside, isWord, whole⟩ := exists_quote_of_quotedAt? found
    have shorter : after.length ≤ rest.length := by
      have lengths := congrArg List.length whole
      rw [isWord] at lengths
      simp only [List.length_append, List.length_cons] at lengths
      omega
    rw [if_pos shorter, List.flatten_cons, whole]
    exact (ih shorter).append_left word
  | case4 c rest _ _ ih =>
    rw [List.flatten_cons, List.cons_append]
    refine List.Sublist.cons_cons c ?_
    have whole := List.takeWhile_append_dropWhile (p := (!Text.isBlank ·)) (l := rest)
    exact (ih.append_left _).trans (by rw [whole])

--------------------------------------------------------------------------------
-- What can be found
--------------------------------------------------------------------------------

theorem mem_animationNames_iff {value name : List Char}
    : name ∈ animationNames value
      ↔ (∃ piece ∈ Text.splitCommas value, ∃ word ∈ itemWords piece, unquote word = name)
        ∧ isAnimationName name = true := by
  simp only [animationNames, List.mem_filter, List.mem_map, List.mem_flatMap]
  constructor
  · rintro ⟨⟨word, ⟨piece, isPiece, isWord⟩, same⟩, known⟩
    exact ⟨⟨piece, isPiece, word, isWord, same⟩, known⟩
  · rintro ⟨⟨piece, isPiece, word, isWord, same⟩, known⟩
    exact ⟨⟨word, ⟨piece, isPiece, isWord⟩, same⟩, known⟩

theorem trim_sublist (text : List Char) : (Text.trim text).Sublist text := by
  obtain ⟨before, after, whole, _⟩ := Text.exists_trim text
  have inside : (Text.trim text).Sublist (before ++ (Text.trim text ++ after)) :=
    (List.sublist_append_left _ after).trans (List.sublist_append_right before _)
  rwa [← whole] at inside

theorem unquote_sublist (value : List Char) : (unquote value).Sublist value := by
  by_cases quoted : IsEnclosed value
  · obtain ⟨quote, inside, enclosed⟩ := quoted
    rw [unquote_of_enclosed enclosed]
    refine List.Sublist.trans ?_ (enclosed ▸ trim_sublist value)
    exact (List.sublist_append_left inside _).cons quote.char
  · rw [unquote_of_not_isEnclosed quoted]
    exact trim_sublist value

/-- What is made of a word is no more than the text that the word is found in. -/
theorem unquote_sublist_of_mem {text word : List Char} (member : word ∈ itemWords text)
    : (unquote word).Sublist text :=
  (unquote_sublist word).trans
    ((List.sublist_flatten_of_mem member).trans (flatten_itemWords_sublist text))

/-- Blanks around a value do not count. -/
theorem unquote_of_trim {left right : List Char} (same : Text.trim left = Text.trim right)
    : unquote left = unquote right := by
  rw [unquote, unquote, same]

theorem unquote_of_whole {word : List Char} (whole : ∀ c ∈ word, Text.isBlank c = false)
    (bare : ∀ quote : Quote, word.head? ≠ some quote.char)
    : unquote word = word := by
  have trimmed : Text.trim word = word := by
    refine Text.trim_of_ends ?_ ?_
    · exact fun c first => whole c (List.mem_of_mem_head? first)
    · exact fun c last => whole c (List.mem_of_getLast? last)
  rw [unquote_of_not_isEnclosed, trimmed]
  rintro ⟨quote, inside, enclosed⟩
  rw [trimmed] at enclosed
  exact bare quote (by rw [enclosed, List.head?_cons])

/-- Nothing that is found in a list which is cut has all of its commas. -/
theorem not_mem_animationNames_of_cut {value : List Char} (cut : Text.outerCommas 0 value ≠ 0)
    : unquote value ∉ animationNames value := by
  intro found
  obtain ⟨⟨piece, isPiece, word, isWord, same⟩, _⟩ := mem_animationNames_iff.mp found
  have fewer := Text.count_lt_of_mem_splitCommas cut isPiece
  have own : (unquote value).count ',' = value.count ',' := by
    have low (c : Char) (comma : (c == ',') = true) : Text.isLowMark c = true := by
      rw [eq_of_beq comma]
      decide
    have noQuote (quote : Quote) : (quote.char == ',') = false := by cases quote <;> decide
    rw [List.count_eq_length_filter, List.count_eq_length_filter, filter_unquote low noQuote]
  have most := (unquote_sublist_of_mem isWord).count_le ','
  rw [same] at most
  omega

namespace Written

--------------------------------------------------------------------------------
-- Names as they are written
--------------------------------------------------------------------------------

/-- A character of a text in quotes: itself, or one behind a backslash. -/
inductive QuotedLetter (quote : Quote) where
  | plain (c : Char) (fits : c ≠ quote.char ∧ c ≠ '\\' ∧ c ≠ '\n')
  | escaped (c : Char)

def QuotedLetter.text {quote : Quote} : QuotedLetter quote → List Char
  | plain c _ => [c]
  | escaped c => ['\\', c]

/-- Letters without escapes. -/
def QuotedLetter.plains (quote : Quote) (text : List Char)
    (fits : ∀ c ∈ text, c ≠ quote.char ∧ c ≠ '\\' ∧ c ≠ '\n')
    : List (QuotedLetter quote) :=
  text.attach.map fun c => .plain c.1 (fits c.1 c.2)

/-- The name of an animation: in quotes, or as an identifier. -/
inductive AnimationName where
  | quoted (quote : Quote) (letters : List (QuotedLetter quote))
  | named (identifier : Identifier)

namespace AnimationName

def text : AnimationName → List Char
  | quoted quote letters => quote.char :: (letters.flatMap (·.text) ++ [quote.char])
  | named identifier => identifier.text

/-- A name as it is compared: without its quotes or the blanks around it, escapes as they stand. -/
def compared : AnimationName → List Char
  | quoted _ letters => letters.flatMap (·.text)
  | named identifier => Text.trim identifier.text

/-- A name in quotes has none of its quotes in it; an identifier has no blank in it. -/
def IsOneWord : AnimationName → Prop
  | quoted quote letters => quote.char ∉ letters.flatMap (·.text)
  | named identifier => ∀ c ∈ Text.trim identifier.text, Text.isBlank c = false

instance (name : AnimationName) : Decidable name.IsOneWord :=
  match name with
  | .quoted quote letters => inferInstanceAs (Decidable (quote.char ∉ letters.flatMap (·.text)))
  | .named identifier =>
    inferInstanceAs (Decidable (∀ c ∈ Text.trim identifier.text, Text.isBlank c = false))

/-- A name that is found: no comma outside of brackets, quotes not regarded, one word, and none of
the words that are taken for keywords, in quotes or without.
-/
structure IsReadable (name : AnimationName) : Prop where
  whole : Text.outerCommas 0 name.text = 0
  oneWord : name.IsOneWord
  known : isAnimationName name.compared = true

end AnimationName

/-- A name in a list, with the whitespace up to the commas. -/
structure AnimationItem where
  before : Gap
  name : AnimationName
  after : Gap

def AnimationItem.text (item : AnimationItem) : List Char :=
  item.before.chars ++ item.name.text ++ item.after.chars

/-- The items with commas between them. -/
def animationText (items : List AnimationItem) : List Char :=
  [','].intercalate (items.map (·.text))

--------------------------------------------------------------------------------
-- Reading a name
--------------------------------------------------------------------------------

/-- In front of a quote of its own, a text in quotes has a backslash. -/
theorem backslash_mem_of_quote {quote : Quote} {letters : List (QuotedLetter quote)}
    {front rest : List Char}
    (whole : letters.flatMap (·.text) = front ++ quote.char :: rest)
    : '\\' ∈ front := by
  have other : '\\' ≠ quote.char := by cases quote <;> decide
  induction letters generalizing front with
  | nil => simp at whole
  | cons letter others ih =>
    cases letter with
    | plain c fits =>
      cases front with
      | nil => exact absurd (List.cons.inj whole).1 fits.1
      | cons first front =>
        exact List.mem_cons_of_mem _ (ih (List.cons.inj whole).2)
    | escaped c =>
      cases front with
      | nil => exact absurd (List.cons.inj whole).1 other
      | cons first front =>
        rw [← (List.cons.inj whole).1]
        exact List.mem_cons_self

/-- No word of an identifier starts with a quote. -/
theorem bare_words (identifier : Identifier)
    : ∀ word ∈ Text.words identifier.text, ∀ quote : Quote, word.head? ≠ some quote.char := by
  have bare : OpensBare identifier.text := by
    rw [← List.append_nil identifier.text]
    exact identifier.opensBare opensBare_nil
  exact fun word member => bare.words member

theorem AnimationName.unquote_text (name : AnimationName) : unquote name.text = name.compared := by
  cases name with
  | quoted quote letters => exact unquote_of_enclosed (trim_quoted quote _)
  | named identifier =>
    exact unquote_of_not_isEnclosed (not_isEnclosed_of_words (bare_words identifier))

namespace AnimationItem

variable (item : AnimationItem)

theorem trim_text : Text.trim item.text = Text.trim item.name.text := by
  rw [text, Text.trim_append item.after.isBlank, Text.trim, Text.trimStart,
    List.dropWhile_append_of_pos item.before.isBlank]
  rfl

theorem unquote_text : unquote item.text = item.name.compared := by
  rw [unquote_of_trim item.trim_text, AnimationName.unquote_text]

theorem outerCommas_text : Text.outerCommas 0 item.text = Text.outerCommas 0 item.name.text := by
  have same := filter_trim isLowMark_of_isStructural item.text
  rw [item.trim_text, filter_trim isLowMark_of_isStructural] at same
  rw [← Text.outerCommas_filter, ← same, Text.outerCommas_filter]

theorem itemWords_text
    : itemWords item.text = itemWords (item.name.text ++ item.after.chars) := by
  rw [text, List.append_assoc, itemWords_blanks item.before.isBlank]

/-- A name in quotes that ends in front of the last of them leaves only words that are shorter. -/
theorem ne_of_mem_quoted {quote : Quote} {letters : List (QuotedLetter quote)}
    {front rest : List Char} (whole : letters.flatMap (·.text) = front ++ quote.char :: rest)
    (after : Gap) {word : List Char} (member : word ∈ itemWords (rest ++ quote.char :: after.chars))
    : unquote word ≠ letters.flatMap (·.text) := by
  intro same
  have most := (unquote_sublist_of_mem member).countP_le (p := (!Text.isBlank ·))
  have escape : 0 < front.countP (!Text.isBlank ·) :=
    List.countP_pos_iff.mpr ⟨'\\', backslash_mem_of_quote whole, by decide⟩
  have none : after.chars.countP (!Text.isBlank ·) = 0 :=
    List.countP_eq_zero.mpr fun c inside => by simp [after.isBlank c inside]
  rw [same, whole] at most
  simp only [List.countP_append, List.countP_cons, none, isBlank_quote, Bool.not_false]
    at most
  omega

/-- A word of an identifier is compared as it stands. -/
theorem unquote_of_mem_words (identifier : Identifier) {word : List Char}
    (member : word ∈ Text.words identifier.text)
    : unquote word = word :=
  unquote_of_whole (Text.of_mem_words member).2 (bare_words identifier word member)

theorem itemWords_named {item : AnimationItem} {identifier : Identifier}
    (named : item.name = .named identifier)
    : itemWords item.text = Text.words identifier.text := by
  have same : Text.words item.text = Text.words identifier.text := by
    rw [← Text.words_trim, item.trim_text, named, Text.words_trim]
    rfl
  rw [itemWords_of_bare, same]
  rw [same]
  exact bare_words identifier

/-- A name that is no single word is cut to pieces that are all shorter. -/
theorem isOneWord_of_mem {word : List Char} (member : word ∈ itemWords item.text)
    (same : unquote word = item.name.compared)
    : item.name.IsOneWord := by
  cases named : item.name with
  | quoted quote letters =>
    rw [named] at same
    intro inside
    obtain ⟨front, rest, whole, free⟩ := List.eq_append_cons_of_mem inside
    rw [itemWords_text, named, AnimationName.text, whole] at member
    simp only [List.cons_append, List.append_assoc] at member
    rw [itemWords_quoted quote free] at member
    rcases List.mem_cons.mp member with rfl | later
    · rw [unquote_of_enclosed (trim_quoted quote front)] at same
      apply free
      rw [same]
      exact inside
    · exact ne_of_mem_quoted whole item.after later same
  | named identifier =>
    rw [itemWords_named named] at member
    rw [unquote_of_mem_words identifier member, named] at same
    rw [AnimationName.IsOneWord, ← AnimationName.compared, ← same]
    exact (Text.of_mem_words member).2

/-- A name that is a single word is read as that. -/
theorem map_unquote_itemWords (oneWord : item.name.IsOneWord) (filled : item.name.compared ≠ [])
    : (itemWords item.text).map unquote = [item.name.compared] := by
  cases named : item.name with
  | quoted quote letters =>
    rw [named] at oneWord
    have none : itemWords item.after.chars = [] := by
      rw [← List.append_nil item.after.chars, itemWords_blanks item.after.isBlank, itemWords]
    rw [itemWords_text, named, AnimationName.text, List.cons_append, List.append_assoc,
      List.singleton_append, itemWords_quoted quote oneWord, none, List.map_singleton,
      unquote_of_enclosed (trim_quoted quote _)]
    rfl
  | named identifier =>
    rw [named] at oneWord filled
    have single : Text.words identifier.text = [Text.trim identifier.text] := by
      rw [← Text.words_trim]
      exact Text.words_of_whole filled oneWord
    rw [itemWords_named named, single, List.map_singleton, unquote_of_mem_words identifier]
    · rfl
    · rw [single]
      exact List.mem_singleton_self _

/-- A name alone is found exactly if it is readable.
Witness: in an item that is cut, or is no single word, everything that is found is less.
-/
theorem compared_mem_iff
    : item.name.compared ∈ animationNames item.text ↔ item.name.IsReadable := by
  constructor
  · intro found
    have whole : Text.outerCommas 0 item.text = 0 := by
      by_contra cut
      exact not_mem_animationNames_of_cut cut (item.unquote_text ▸ found)
    obtain ⟨⟨piece, isPiece, word, isWord, same⟩, known⟩ := mem_animationNames_iff.mp found
    rw [Text.splitCommas, Text.splitCommasFrom_of_whole whole, List.mem_singleton] at isPiece
    rw [isPiece] at isWord
    exact ⟨item.outerCommas_text ▸ whole, item.isOneWord_of_mem isWord same, known⟩
  · rintro ⟨whole, oneWord, known⟩
    rw [← item.outerCommas_text] at whole
    have filled : item.name.compared ≠ [] := by
      intro empty
      rw [empty] at known
      cases known
    rw [animationNames, Text.splitCommas, Text.splitCommasFrom_of_whole whole,
      List.flatMap_singleton, item.map_unquote_itemWords oneWord filled]
    simpa using known

end AnimationItem

end Written

end CriticalCss.Tidy
