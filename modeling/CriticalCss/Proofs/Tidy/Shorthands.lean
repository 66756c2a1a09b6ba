import CriticalCss.Proofs.Tidy.FamilyLists
import CriticalCss.Proofs.Tidy.Sizes

/-! The families of a font shorthand are looked for behind its last word that looks like a size.
That is the right place exactly if the word in front of the families looks like one and no word of
the first family does; all families but the first are found in any case.
-/

namespace CriticalCss.Tidy

--------------------------------------------------------------------------------
-- Behind the last size
--------------------------------------------------------------------------------

section Behind

variable {test : List Char → Bool}

theorem behindLast?_eq_none_iff {words : List (List Char)}
    : behindLast? test words = none ↔ ∀ word ∈ words, test word = false := by
  induction words with
  | nil => simp [behindLast?]
  | cons word rest ih =>
    rw [behindLast?, List.forall_mem_cons, ← ih]
    cases behindLast? test rest with
    | some behind => simp
    | none => simp

/-- What is behind a word that satisfies a test which no later word does. -/
theorem behindLast?_of_last {word : List Char} (found : test word = true)
    {rest : List (List Char)} (last : ∀ later ∈ rest, test later = false)
    (front : List (List Char))
    : behindLast? test (front ++ word :: rest) = some rest := by
  induction front with
  | nil => simp [behindLast?, behindLast?_eq_none_iff.mpr last, found]
  | cons first others ih => rw [List.cons_append, behindLast?, ih]

theorem exists_of_behindLast? {words rest : List (List Char)}
    (behind : behindLast? test words = some rest)
    : ∃ front word,
        words = front ++ word :: rest
        ∧ test word = true
        ∧ ∀ later ∈ rest, test later = false := by
  induction words with
  | nil => cases behind
  | cons word others ih =>
    rw [behindLast?] at behind
    split at behind
    · rename_i found
      cases behind
      obtain ⟨front, last, rfl, own, none⟩ := ih found
      exact ⟨word :: front, last, rfl, own, none⟩
    · rename_i none
      split at behind
      · rename_i own
        cases behind
        exact ⟨[], word, rfl, own, behindLast?_eq_none_iff.mp none⟩
      · cases behind

end Behind

/-- The words that are taken for those of the first family, from the text up to the first comma. -/
def familyWords (first : List Char) : List (List Char) :=
  (behindLast? looksLikeSize (Text.words first)).getD (Text.words first)

/-- The text that is taken for the first family. -/
def familyText (first : List Char) : List Char :=
  match behindLast? looksLikeSize (Text.words first) with
  | some behind => [' '].intercalate behind
  | none => first

theorem familyWords_suffix (first : List Char) : familyWords first <:+ Text.words first := by
  unfold familyWords
  cases behind : behindLast? looksLikeSize (Text.words first) with
  | none => exact List.suffix_refl _
  | some rest =>
    obtain ⟨front, word, words, _, _⟩ := exists_of_behindLast? behind
    exact ⟨front ++ [word], by simp [words]⟩

theorem words_familyText (first : List Char)
    : Text.words (familyText first) = familyWords first := by
  have suffix := familyWords_suffix first
  unfold familyText
  unfold familyWords at suffix ⊢
  cases behind : behindLast? looksLikeSize (Text.words first) with
  | none => rfl
  | some rest =>
    rw [behind] at suffix
    apply Text.words_intercalate
    intro word member
    exact Text.of_mem_words (suffix.subset member)

/-- May a family be called this? Neither nothing nor a keyword of all properties is a name. -/
def IsNamed (family : List Char) : Prop :=
  family ≠ [] ∧ String.ofList family ∉ cssWideKeywords

instance (family : List Char) : Decidable (IsNamed family) :=
  inferInstanceAs (Decidable (_ ∧ _))

/-- A family is found if it may be called so and is in one of the pieces that are looked at. -/
theorem mem_shorthandFamilies_iff {value first : List Char} {others : List (List Char)}
    (cut : Text.splitCommas value = first :: others) {family : List Char}
    : family ∈ shorthandFamilies value
      ↔ IsNamed family
        ∧ ∃ piece ∈ Text.splitCommas ([','].intercalate (familyText first :: others)),
            normalFamily piece = family := by
  have read
      : shorthandFamilies value
        = (listedFamilies ([','].intercalate (familyText first :: others))).filter fun name =>
            !name.isEmpty && !cssWideKeywords.contains (String.ofList name) := by
    rw [shorthandFamilies, cut]
    rfl
  have named
      : (!family.isEmpty && !cssWideKeywords.contains (String.ofList family)) = true
        ↔ IsNamed family := by
    simp [IsNamed]
  rw [read, List.mem_filter, named, mem_listedFamilies_iff, and_comm]
  refine and_congr_right fun is => exists_congr fun piece => and_congr_right fun _ => ?_
  rw [and_iff_right_of_imp]
  rintro rfl blank
  apply is.1
  apply normalFamily_of_no_words
  rw [← Text.words_trim, blank]
  rfl

/-- No bracket stays open in the text that is taken for the first family. -/
theorem closed_familyText {first : List Char} (closed : first.foldl Text.depthAfter 0 = 0)
    : (familyText first).foldl Text.depthAfter 0 = 0 := by
  obtain ⟨front, whole⟩ := familyWords_suffix first
  rw [← foldl_depthAfter_words, ← whole, List.flatten_append, List.foldl_append] at closed
  rw [← foldl_depthAfter_words, words_familyText]
  exact Nat.le_zero.mp (closed ▸ Text.foldl_depthAfter_mono (Nat.zero_le _) _)

namespace Written

open Media.Written (noGap)

--------------------------------------------------------------------------------
-- Texts that cut nothing
--------------------------------------------------------------------------------

theorem IsPlain.append {front rest : List Char} (first : IsPlain front) (second : IsPlain rest)
    : IsPlain (front ++ rest) := by
  intro c member
  rcases List.mem_append.mp member with inFront | inRest
  · exact first c inFront
  · exact second c inRest

theorem IsPlain.outerCommas {text : List Char} (plain : IsPlain text)
    : Text.outerCommas 0 text = 0 :=
  Text.outerCommas_of_free (fun member => (plain ',' member).1 rfl) 0

theorem IsPlain.isBalanced {text : List Char} (plain : IsPlain text) : Text.IsBalanced text :=
  Text.isBalanced_of_plain fun c member => (plain c member).2

theorem isPlain_gap (gap : Media.Written.Gap) : IsPlain gap.chars :=
  fun _ member => (gap.isQuiet_of_mem member).free

theorem Item.isPlain {item : Item} (plain : IsPlain item.family.text) : IsPlain item.text :=
  ((isPlain_gap item.before).append plain).append (isPlain_gap item.after)

/-- A closed text in front of plain ones is cut on its own. -/
theorem splitCommas_intercalate_of_plain {first : List Char} {others : List (List Char)}
    (closed : first.foldl Text.depthAfter 0 = 0) (plain : ∀ other ∈ others, IsPlain other)
    : Text.splitCommas ([','].intercalate (first :: others))
      = Text.splitCommas first ++ others := by
  apply Text.splitCommas_intercalate_cons closed
  · intro other member
    exact (plain other member).outerCommas
  · intro other member
    exact (plain other ((List.dropLast_sublist others).mem member)).isBalanced 0

/-- A text that can stand in front of the families of a shorthand. -/
structure IsFront (text : List Char) : Prop where
  unquoted : ∀ quote : Quote, quote.char ∉ text
  whole : Text.outerCommas 0 text = 0
  balanced : Text.IsBalanced text

theorem IsFront.append {front rest : List Char} (first : IsFront front) (second : IsFront rest)
    : IsFront (front ++ rest) where
  unquoted quote member :=
    (List.mem_append.mp member).elim (first.unquoted quote) (second.unquoted quote)
  whole := by rw [Text.outerCommas_append, first.whole, first.balanced, second.whole]
  balanced := first.balanced.append second.balanced

theorem IsPlain.isFront {text : List Char} (plain : IsPlain text)
    (unquoted : ∀ quote : Quote, quote.char ∉ text)
    : IsFront text :=
  ⟨unquoted, plain.outerCommas, plain.isBalanced⟩

theorem isFront_gap (gap : Media.Written.Gap) : IsFront gap.chars := by
  refine (isPlain_gap gap).isFront ?_
  intro quote member
  have blank := gap.isBlank quote.char member
  rw [isBlank_quote] at blank
  cases blank

theorem not_quote_of_unquoted {text : List Char} (unquoted : ∀ c ∈ text, c ≠ '\'' ∧ c ≠ '"')
    (quote : Quote)
    : quote.char ∉ text := by
  intro member
  cases quote with
  | single => exact (unquoted _ member).1 rfl
  | double => exact (unquoted _ member).2 rfl

theorem Word.isFront (word : Word) : IsFront word.chars :=
  word.plain.isFront (not_quote_of_unquoted word.unquoted)

theorem Height.isFront (height : Height) : IsFront height.text := by
  have slash : IsFront ['/'] := by
    refine IsPlain.isFront (by decide) ?_
    rintro (_ | _) <;> decide
  have own : IsFront height.chars :=
    ⟨not_quote_of_unquoted height.unquoted, height.whole, height.balanced⟩
  exact (isFront_gap height.before).append (slash.append ((isFront_gap height.after).append own))

namespace Shorthand

variable (shorthand : Shorthand)

theorem isFront_head : IsFront shorthand.head := by
  refine (isFront_gap shorthand.before).append (IsFront.append ?_ ?_)
  · induction shorthand.lead with
    | nil => exact isFront_gap noGap
    | cons first others ih =>
      rw [List.flatMap_cons]
      exact (first.1.isFront.append (isFront_gap first.2.toGap)).append ih
  · refine shorthand.size.isFront.append ?_
    cases shorthand.height with
    | none => exact isFront_gap noGap
    | some height => exact height.isFront

theorem words_head_ne_nil : Text.words shorthand.head ≠ [] := by
  obtain ⟨c, rest, chars⟩ := List.exists_cons_of_ne_nil shorthand.size.some
  have own : c ∈ shorthand.size.chars := chars ▸ List.mem_cons_self
  have member : c ∈ shorthand.head := by simp [head, own]
  intro none
  have gone := Text.flatten_words shorthand.head
  rw [none] at gone
  have found : c ∈ shorthand.head.filter (!Text.isBlank ·) :=
    List.mem_filter.mpr ⟨member, by simp [shorthand.size.whole c own]⟩
  rw [← gone] at found
  cases found

theorem words_firstText
    : Text.words shorthand.firstText
      = Text.words shorthand.head ++ Text.words shorthand.first.text := by
  obtain ⟨blank, others, space⟩ := List.exists_cons_of_ne_nil shorthand.space.some
  have blanks := shorthand.space.toGap.isBlank
  rw [space, List.forall_mem_cons] at blanks
  rw [firstText, space, List.cons_append, Text.words_append blanks.1,
    Text.words_blanks_append blanks.2, Text.words_append_blanks shorthand.after.isBlank]

--------------------------------------------------------------------------------
-- The families that are found
--------------------------------------------------------------------------------

/-- A family is found if it may be called so, and either it is in a text that is cut out of the text
up to the first comma, or it stands behind that comma.
-/
theorem mem_shorthandFamilies_text_iff {shorthand : Shorthand}
    (plain : ∀ family ∈ shorthand.families, IsPlain family.text) {family : List Char}
    : family ∈ shorthandFamilies shorthand.text
      ↔ IsNamed family
        ∧ ((∃ piece ∈ Text.splitCommas (familyText shorthand.firstText),
              normalFamily piece = family)
          ∨ family ∈ shorthand.others.map (·.family.normal)) := by
  rw [families, List.forall_mem_cons, List.forall_mem_map] at plain
  have items : ∀ text ∈ shorthand.others.map (·.text), IsPlain text := by
    rw [List.forall_mem_map]
    intro item member
    exact Item.isPlain (plain.2 item member)
  have front := shorthand.isFront_head
  have behind
      : IsPlain (shorthand.space.chars ++ (shorthand.first.text ++ shorthand.after.chars)) :=
    (isPlain_gap _).append (plain.1.append (isPlain_gap _))
  have closed : shorthand.firstText.foldl Text.depthAfter 0 = 0 :=
    (front.balanced.append behind.isBalanced) 0
  have whole : Text.outerCommas 0 shorthand.firstText = 0 := by
    rw [firstText, Text.outerCommas_append, front.whole, front.balanced, behind.outerCommas]
  have cut
      : Text.splitCommas shorthand.text = shorthand.firstText :: shorthand.others.map (·.text) := by
    rw [text, splitCommas_intercalate_of_plain closed items, Text.splitCommas,
      Text.splitCommasFrom_of_whole whole]
    rfl
  rw [mem_shorthandFamilies_iff cut,
    splitCommas_intercalate_of_plain (closed_familyText closed) items]
  simp only [List.mem_append, or_and_right, exists_or, List.mem_map, exists_exists_and_eq_and,
    Item.normalFamily_text]

/-- The word in front of the families looks like a size, and no word of the first family does. -/
def ReadsFirst (shorthand : Shorthand) : Prop :=
  (∃ word ∈ (Text.words shorthand.head).getLast?, looksLikeSize word = true)
  ∧ ∀ word ∈ Text.words shorthand.first.text, looksLikeSize word = false

/-- The words that are taken for those of the first family are its words exactly if the size ends
where it is looked for.
-/
theorem familyWords_eq_iff
    : familyWords shorthand.firstText = Text.words shorthand.first.text
      ↔ shorthand.ReadsFirst := by
  rw [familyWords, words_firstText]
  constructor
  · intro same
    cases behind
        : behindLast? looksLikeSize
            (Text.words shorthand.head ++ Text.words shorthand.first.text) with
    | none =>
      rw [behind, Option.getD_none, List.append_left_eq_self] at same
      exact absurd same shorthand.words_head_ne_nil
    | some rest =>
      obtain ⟨front, word, whole, size, none⟩ := exists_of_behindLast? behind
      rw [behind, Option.getD_some] at same
      subst same
      rw [List.append_cons, List.append_cancel_right_eq] at whole
      exact ⟨⟨word, by simp [whole], size⟩, none⟩
  · rintro ⟨⟨word, last, size⟩, none⟩
    obtain ⟨front, whole⟩ := List.getLast?_eq_some_iff.mp last
    rw [whole, List.append_assoc, List.singleton_append, behindLast?_of_last size none,
      Option.getD_some]

/-- Otherwise some of its words are missing, or there are others in front of them. -/
theorem familyWords_cases (other : ¬shorthand.ReadsFirst)
    : (∃ more ≠ [],
        (∀ word ∈ more, ∀ quote : Quote, quote.char ∉ word)
        ∧ familyWords shorthand.firstText = more ++ Text.words shorthand.first.text)
      ∨ ∃ less ≠ [],
          Text.words shorthand.first.text = less ++ familyWords shorthand.firstText := by
  have differs := mt shorthand.familyWords_eq_iff.mp other
  have suffix := familyWords_suffix shorthand.firstText
  rw [words_firstText] at suffix
  obtain ⟨front, whole⟩ := suffix
  rcases List.append_eq_append_iff.mp whole with ⟨more, head, found⟩ | ⟨less, words, found⟩
  · refine Or.inl ⟨more, ?_, ?_, found⟩
    · rintro rfl
      exact differs found
    · intro word member quote inside
      apply shorthand.isFront_head.unquoted quote
      have inWords : quote.char ∈ (Text.words shorthand.head).flatten :=
        List.mem_flatten.mpr ⟨word, head ▸ List.mem_append_right front member, inside⟩
      rw [Text.flatten_words] at inWords
      exact (List.mem_filter.mp inWords).1
  · refine Or.inr ⟨less, ?_, found⟩
    rintro rfl
    exact differs found.symm

/-- The family behind the size is found where the size ends. -/
theorem exists_piece_of_readsFirst {shorthand : Shorthand} (plain : IsPlain shorthand.first.text)
    (reads : shorthand.ReadsFirst)
    : ∃ piece ∈ Text.splitCommas (familyText shorthand.firstText),
        normalFamily piece = shorthand.first.normal := by
  have words : Text.words (familyText shorthand.firstText) = Text.words shorthand.first.text := by
    rw [words_familyText, shorthand.familyWords_eq_iff.mpr reads]
  have free : Text.outerCommas 0 (familyText shorthand.firstText) = 0 := by
    rw [← outerCommas_words, words, outerCommas_words]
    exact plain.outerCommas
  rw [Text.splitCommas, Text.splitCommasFrom_of_whole free]
  refine ⟨_, List.mem_singleton_self _, ?_⟩
  rw [normalFamily_of_words words, Family.normalFamily_text]

/-- The family behind the size is not found where the size does not end. -/
theorem normalFamily_ne_of_not_readsFirst {shorthand : Shorthand}
    (plain : IsPlain shorthand.first.text) (free : ',' ∉ shorthand.head)
    (named : shorthand.first.normal ≠ []) (other : ¬shorthand.ReadsFirst)
    : ∀ piece ∈ Text.splitCommas (familyText shorthand.firstText),
        normalFamily piece ≠ shorthand.first.normal := by
  have whole : Text.outerCommas 0 (familyText shorthand.firstText) = 0 := by
    rw [← outerCommas_words, words_familyText]
    apply Text.outerCommas_of_free
    intro member
    have inWords : ',' ∈ (Text.words shorthand.firstText).flatten :=
      (familyWords_suffix shorthand.firstText).flatten.subset member
    rw [words_firstText, List.flatten_append, Text.flatten_words, Text.flatten_words,
      ← List.filter_append] at inWords
    rcases List.mem_append.mp (List.mem_filter.mp inWords).1 with inHead | inFirst
    · exact free inHead
    · exact (plain ',' inFirst).1 rfl
  rw [Text.splitCommas, Text.splitCommasFrom_of_whole whole]
  intro piece member
  obtain rfl := List.mem_singleton.mp member
  rcases shorthand.familyWords_cases other with ⟨more, some, unquoted, words⟩ | ⟨less, some, words⟩
  · rw [← words_familyText] at words
    exact shorthand.first.normalFamily_ne_of_more some unquoted words
  · rw [← words_familyText] at words
    exact shorthand.first.normalFamily_ne_of_less named some words

--------------------------------------------------------------------------------
-- The word in front of the families
--------------------------------------------------------------------------------

theorem words_lead (lead : List (Word × Media.Written.Break)) (rest : List Char)
    : Text.words (lead.flatMap (fun (word, space) => word.chars ++ space.chars) ++ rest)
      = lead.map (·.1.chars) ++ Text.words rest := by
  induction lead with
  | nil => rfl
  | cons first others ih =>
    obtain ⟨word, space⟩ := first
    rw [List.flatMap_cons, List.append_assoc, List.append_assoc,
      Text.words_word_append word.some word.whole space.some space.toGap.isBlank, ih]
    rfl

/-- A size and a line height without blanks are the last word in front of the families. -/
theorem getLast?_words_head
    (whole : ∀ c ∈ (shorthand.height.map (·.text)).getD [], Text.isBlank c = false)
    : (Text.words shorthand.head).getLast?
      = some (shorthand.size.chars ++ (shorthand.height.map (·.text)).getD []) := by
  have filled : shorthand.size.chars ++ (shorthand.height.map (·.text)).getD [] ≠ [] := by
    simp [shorthand.size.some]
  have one
      : ∀ c ∈ shorthand.size.chars ++ (shorthand.height.map (·.text)).getD [],
          Text.isBlank c = false := by
    intro c member
    rcases List.mem_append.mp member with inSize | inHeight
    · exact shorthand.size.whole c inSize
    · exact whole c inHeight
  rw [head, Text.words_blanks_append shorthand.before.isBlank, words_lead,
    Text.words_of_whole filled one, List.getLast?_concat]

/-- Usual sizes look like sizes. -/
theorem IsUsual.looksLikeSize {shorthand : Shorthand} (usual : shorthand.IsUsual)
    : ∃ word ∈ (Text.words shorthand.head).getLast?, looksLikeSize word = true := by
  rcases usual with ⟨keyword, none⟩ | ⟨measured, attached⟩
  · refine ⟨shorthand.size.chars, ?_, looksLikeSize_of_keyword keyword⟩
    have last := shorthand.getLast?_words_head (by simp [none])
    simpa [none] using last
  · have ends
        : IsHeightText ((shorthand.height.map (·.text)).getD [])
          ∧ ∀ c ∈ (shorthand.height.map (·.text)).getD [], Text.isBlank c = false := by
      cases found : shorthand.height with
      | none => exact ⟨Or.inl rfl, by simp⟩
      | some height =>
        obtain ⟨before, after, some, whole⟩ := attached height found
        have text : height.text = '/' :: height.chars := by
          rw [Height.text, before, after]
          rfl
        rw [Option.map_some, Option.getD_some, text, List.forall_mem_cons]
        exact ⟨Or.inr ⟨height.chars, some, rfl⟩, by decide, whole⟩
    exact ⟨_, shorthand.getLast?_words_head ends.2, looksLikeSize_of_isMeasured measured ends.1⟩

--------------------------------------------------------------------------------
-- References
--------------------------------------------------------------------------------

/-- Is the family of the shorthand found? It may be called so, and either the size ends where it is
looked for, or the family stands behind a comma. -/
def Finds (shorthand : Shorthand) (family : Family) : Prop :=
  IsNamed family.normal
  ∧ (shorthand.ReadsFirst ∨ family.normal ∈ shorthand.others.map (·.family.normal))

theorem mem_shorthandFamilies_of_finds {shorthand : Shorthand}
    (plain : ∀ family ∈ shorthand.families, IsPlain family.text) {family : Family}
    (member : family ∈ shorthand.families) (finds : shorthand.Finds family)
    : family.normal ∈ shorthandFamilies shorthand.text := by
  rw [mem_shorthandFamilies_text_iff plain]
  refine ⟨finds.1, ?_⟩
  rcases List.mem_cons.mp member with rfl | behind
  · rcases finds.2 with reads | again
    · exact Or.inl (exists_piece_of_readsFirst (plain _ member) reads)
    · exact Or.inr again
  · obtain ⟨item, listed, rfl⟩ := List.mem_map.mp behind
    exact Or.inr (List.mem_map_of_mem listed)

theorem finds_of_mem_shorthandFamilies {shorthand : Shorthand}
    (plain : ∀ family ∈ shorthand.families, IsPlain family.text) (free : ',' ∉ shorthand.head)
    {family : Family} (member : family ∈ shorthand.families)
    (found : family.normal ∈ shorthandFamilies shorthand.text)
    : shorthand.Finds family := by
  rw [mem_shorthandFamilies_text_iff plain] at found
  obtain ⟨named, place⟩ := found
  refine ⟨named, ?_⟩
  rcases List.mem_cons.mp member with rfl | behind
  · by_contra neither
    rw [not_or] at neither
    rcases place with ⟨piece, cut, same⟩ | again
    · exact normalFamily_ne_of_not_readsFirst (plain _ member) free named.1 neither.1 piece cut same
    · exact neither.2 again
  · obtain ⟨item, listed, rfl⟩ := List.mem_map.mp behind
    exact Or.inr (List.mem_map_of_mem listed)

/-- The families of a shorthand, written without commas and brackets, are found as described; where
no function in front of them has a comma, no others of them are. With a usual size it is only the
words of the first family that can look like another one. While a declaration with such a shorthand
stands outside of definitions no font face is taken that declares a family which is found.
-/
theorem refersTo_families {shorthand : Shorthand}
    (plain : ∀ family ∈ shorthand.families, IsPlain family.text)
    : (∀ family ∈ shorthand.families,
        shorthand.Finds family → family.normal ∈ shorthandFamilies shorthand.text)
      ∧ (',' ∉ shorthand.head
        → ∀ family ∈ shorthand.families,
            family.normal ∈ shorthandFamilies shorthand.text → shorthand.Finds family)
      ∧ (shorthand.IsUsual
        → (∀ word ∈ Text.words shorthand.first.text, looksLikeSize word = false)
        → shorthand.ReadsFirst)
      ∧ ∀ (sheet : Stylesheet) (declaration : Declaration),
          declaration ∈ referring sheet
          → declaration.property = "font"
          → declaration.value.toList = shorthand.text
          → ∀ family ∈ shorthand.families,
              shorthand.Finds family
              → (Stylesheet.leaves (removeUnusedFontFaces sheet).sheet).filter
                    (declaresFamily family.normal)
                = (Stylesheet.leaves sheet).filter (declaresFamily family.normal) := by
  refine ⟨?_, ?_, ?_, ?_⟩
  · intro family member finds
    exact mem_shorthandFamilies_of_finds plain member finds
  · intro free family member found
    exact finds_of_mem_shorthandFamilies plain free member found
  · intro usual none
    exact ⟨usual.looksLikeSize, none⟩
  · intro sheet declaration survives property value family member finds
    apply fontFaces_kept survives
    rw [familiesOf, property, if_neg (by decide), if_pos rfl, value]
    exact mem_shorthandFamilies_of_finds plain member finds

def twelvePixels : Word :=
  ⟨"12px".toList, by decide, List.all_iff_forall_prop.mp (by decide),
    List.all_iff_forall_prop.mp (by decide), by decide⟩

def italic : Word :=
  ⟨"italic".toList, by decide, List.all_iff_forall_prop.mp (by decide),
    List.all_iff_forall_prop.mp (by decide), by decide⟩

def lineHeight : Height where
  before := noGap
  after := noGap
  chars := "1.5".toList
  unquoted := List.all_iff_forall_prop.mp (by decide)
  whole := by decide
  balanced := Text.isBalanced_of_plain (List.all_iff_forall_prop.mp (by decide))

theorem isMeasured_twelvePixels : IsMeasured twelvePixels.chars :=
  ⟨none, .whole ⟨"12".toList, List.all_eq_true.mp (by decide), by decide⟩, "px".toList,
    List.all_iff_forall_prop.mp (by decide), by decide⟩

def exoShorthand : Shorthand where
  before := noGap
  lead := [(italic, Media.Written.space)]
  size := twelvePixels
  height := some lineHeight
  space := Media.Written.space
  first := .quoted .double "Exo Sans".toList (List.all_iff_forall_prop.mp (by decide))
  after := noGap
  others := [serif]

def exoSheet : Stylesheet :=
  [.declarationBlock "font-face" "" [.set "font-family" "exo  sans" false],
    .style ["p"] [.set "font" "italic 12px/1.5 \"Exo Sans\", serif" false]]

theorem refersTo_families_exo
    : (∀ family ∈ exoShorthand.families, IsPlain family.text)
      ∧ "exo sans".toList ∈ shorthandFamilies "italic 12px/1.5 \"Exo Sans\", serif".toList
      ∧ ((Stylesheet.leaves (removeUnusedFontFaces exoSheet).sheet).filter
          (declaresFamily "exo sans".toList)).length
        = 1 := by
  have plain : ∀ family ∈ exoShorthand.families, IsPlain family.text := by decide
  have usual : exoShorthand.IsUsual := by
    refine Or.inr ⟨isMeasured_twelvePixels, ?_⟩
    rintro height ⟨⟩
    exact ⟨rfl, rfl, by decide, List.all_iff_forall_prop.mp (by decide)⟩
  obtain ⟨found, _, reads, kept⟩ := refersTo_families plain
  have finds : exoShorthand.Finds exoShorthand.first :=
    ⟨by decide +kernel, Or.inl (reads usual (by decide +kernel))⟩
  refine ⟨plain, found _ List.mem_cons_self finds, ?_⟩
  have faces := kept exoSheet (.set "font" "italic 12px/1.5 \"Exo Sans\", serif" false)
    (by decide +kernel) rfl (by decide +kernel) _ List.mem_cons_self finds
  refine (congrArg List.length faces).trans ?_
  decide +kernel

def gothamShorthand : Shorthand where
  before := noGap
  lead := []
  size := twelvePixels
  height := none
  space := Media.Written.space
  first :=
    .named (.plain "Gotham".toList (by decide) (by decide))
      [(Media.Written.space, .plain "Medium".toList (by decide) (by decide))]
  after := noGap
  others := [serif]

def gothamSheet : Stylesheet :=
  [.declarationBlock "font-face" "" [.set "font-family" "Gotham Medium" false],
    .style ["p"] [.set "font" "12px Gotham Medium, serif" false]]

/-- A family with a word that looks like a size is not found, and its font face is taken while the
shorthand stays.
-/
theorem not_refersTo_gothamMedium
    : gothamShorthand.text = "12px Gotham Medium, serif".toList
      ∧ gothamShorthand.IsUsual
      ∧ IsNamed gothamShorthand.first.normal
      ∧ gothamShorthand.first.normal ∉ shorthandFamilies gothamShorthand.text
      ∧ (referring (removeUnusedFontFaces gothamSheet).sheet).map (·.value)
        = ["12px Gotham Medium, serif"]
      ∧ ((Stylesheet.leaves gothamSheet).filter
          (declaresFamily gothamShorthand.first.normal)).length
        = 1
      ∧ ((Stylesheet.leaves (removeUnusedFontFaces gothamSheet).sheet).filter
          (declaresFamily gothamShorthand.first.normal)).length
        = 0 := by
  refine ⟨?_, Or.inr ⟨isMeasured_twelvePixels, by simp [gothamShorthand]⟩, ?_, ?_, ?_, ?_, ?_⟩
  · decide +kernel
  · decide +kernel
  · decide +kernel
  · decide +kernel
  · decide +kernel
  · decide +kernel

end Shorthand

end Written

end CriticalCss.Tidy
