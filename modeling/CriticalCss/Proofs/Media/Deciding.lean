import CriticalCss.Proofs.Media.Reading

/-! What is decided about queries that are written out. Behind the type of a query all of its
features count, wherever they stand; without a type they count only where they are joined by "and"
alone, since anything else leaves a word in front that is no media type.
-/

namespace CriticalCss.Media.Written

--------------------------------------------------------------------------------
-- Words
--------------------------------------------------------------------------------

/-- The words of a text, except for the one that joins. -/
def spare (text : List Char) : List String :=
  ((Text.words text).map String.ofList).filter (· ≠ "and")

/-- What a query is taken for by its words. -/
def readWords (words : List String) (features : List Feature) : Media.Query :=
  match words with
  | "not" :: rest => ⟨true, rest.head?, features⟩
  | "only" :: rest => ⟨false, rest.head?, features⟩
  | _ => ⟨false, words.head?, features⟩

theorem read_eq {text own : List Char} (lowered : Text.lower text = own)
    : Media.Query.read text = readWords (spare (takeFeatures own).1) (takeFeatures own).2 := by
  subst lowered
  rfl

theorem isBlank_of_head?_append {blanks : List Char} (some : blanks ≠ [])
    (allBlank : ∀ c ∈ blanks, Text.isBlank c = true) (rest : List Char)
    : ∀ c ∈ (blanks ++ rest).head?, Text.isBlank c = true := by
  intro c first
  rw [List.head?_append_of_ne_nil _ some] at first
  exact allBlank c (List.mem_of_mem_head? first)

theorem Break.isBlank_of_head? (space : Break) (rest : List Char)
    : ∀ c ∈ (space.chars ++ rest).head?, Text.isBlank c = true :=
  isBlank_of_head?_append space.some space.toGap.isBlank rest

/-- What starts with a blank, if with anything, goes on with no word. -/
theorem spare_append {rest : List Char} (stop : ∀ c ∈ rest.head?, Text.isBlank c = true)
    (front : List Char)
    : spare (front ++ rest) = spare front ++ spare rest := by
  rw [spare, Text.words_append_of_head stop, List.map_append, List.filter_append]
  rfl

theorem spare_blanks {blanks : List Char} (allBlank : ∀ c ∈ blanks, Text.isBlank c = true)
    (rest : List Char)
    : spare (blanks ++ rest) = spare rest := by
  rw [spare, Text.words_blanks_append allBlank]
  rfl

theorem spare_gap (gap : Gap) (rest : List Char) : spare (gap.chars ++ rest) = spare rest :=
  spare_blanks gap.isBlank rest

/-- A text without a blank is a word, unless it is the one that joins. -/
theorem spare_of_whole {word : List Char} (filled : word ≠ [])
    (whole : ∀ c ∈ word, Text.isBlank c = false)
    : spare word = if String.ofList word = "and" then [] else [String.ofList word] := by
  rw [spare, Text.words_of_whole filled whole]
  by_cases joins : String.ofList word = "and"
  · simp [joins]
  · simp [joins]

theorem spare_word {word : String} (filled : word ≠ "") (other : word ≠ "and")
    (whole : word.toList.any Text.isBlank = false) (space : Break) (rest : List Char)
    : spare (word.toList ++ (space.chars ++ rest)) = word :: spare rest := by
  have some : word.toList ≠ [] := fun none => filled (String.toList_eq_nil_iff.mp none)
  have whole : ∀ c ∈ word.toList, Text.isBlank c = false :=
    fun c member => Bool.eq_false_iff.mpr (List.any_eq_false.mp whole c member)
  rw [spare_append (space.isBlank_of_head? rest), spare_of_whole some whole, spare_gap,
    String.ofList_toList, if_neg other]
  rfl

theorem spare_and (space : Break) (rest : List Char)
    : spare ("and".toList ++ (space.chars ++ rest)) = spare rest := by
  rw [spare_append (space.isBlank_of_head? rest), spare_gap]
  exact congrArg (· ++ spare rest) (by decide : spare "and".toList = [])

theorem exists_spare_bracket (rest : List Char)
    : ∃ word more, spare ('(' :: rest) = String.ofList ('(' :: word) :: more := by
  obtain ⟨word, more, words⟩ := Text.words_cons (by decide : Text.isBlank '(' = false) rest
  have other : String.ofList ('(' :: word) ≠ "and" := by
    intro same
    have chars := congrArg String.toList same
    rw [String.toList_ofList] at chars
    cases chars
  refine ⟨word, (more.map String.ofList).filter (· ≠ "and"), ?_⟩
  rw [spare, words, List.map_cons, List.filter_cons_of_pos (by simpa using other)]

--------------------------------------------------------------------------------
-- Queries without a type
--------------------------------------------------------------------------------

/-- Words that start with no media type, nor negate one. -/
inductive Unclear (features : List Feature) : List String → Prop where
  | bracket (word : List Char) (more : List String)
    : Unclear features (String.ofList ('(' :: word) :: more)
  | or (more : List String) : Unclear features ("or" :: more)
  | notFeature (some : features ≠ []) (more : List String) : Unclear features ("not" :: more)
  | notUnclear {more : List String} (behind : Unclear features more)
    : Unclear features ("not" :: more)

theorem Unclear.mono {features others : List Feature} {words : List String}
    (unclear : Unclear features words) (sub : features ⊆ others)
    : Unclear others words := by
  induction unclear with
  | bracket word more => exact .bracket word more
  | or more => exact .or more
  | notFeature some more => exact .notFeature (fun none => some (by simpa [none] using sub)) more
  | notUnclear _ ih => exact .notUnclear ih

/-- The first of unclear words is none that is looked for, except for the one that negates. -/
theorem Unclear.exists_first {features : List Feature} {words : List String}
    (unclear : Unclear features words)
    : ∃ first more,
        words = first :: more
        ∧ first ≠ "only"
        ∧ first ∉ screenTypes
        ∧ first ∉ otherTypes
        ∧ (first = "not" → features ≠ [] ∨ Unclear features more) := by
  cases unclear with
  | bracket word more =>
    have known
        : ∀ other ∈ "only" :: "not" :: screenTypes ++ otherTypes,
            other.toList.head? ≠ some '(' := by
      decide
    have other : ∀ other ∈ "only" :: "not" :: screenTypes ++ otherTypes,
        String.ofList ('(' :: word) ≠ other := by
      rintro _ member rfl
      exact known _ member (by rw [String.toList_ofList]; rfl)
    simp only [List.cons_append, List.forall_mem_cons, List.forall_mem_append] at other
    obtain ⟨noMark, noNot, noScreen, noOther⟩ := other
    exact ⟨_, _, rfl, noMark, fun member => noScreen _ member rfl,
      fun member => noOther _ member rfl, fun is => absurd is noNot⟩
  | or more => exact ⟨_, _, rfl, by decide, by decide, by decide, nofun⟩
  | notFeature some more =>
    exact ⟨_, _, rfl, by decide, by decide, by decide, fun _ => .inl some⟩
  | notUnclear behind => exact ⟨_, _, rfl, by decide, by decide, by decide, fun _ => .inr behind⟩

/-- With unclear words a query may match. -/
theorem Unclear.mayMatch {features : List Feature} {words : List String}
    (unclear : Unclear features words) (viewport : Viewport) (keepLarger : Bool)
    : (readWords words features).mayMatch viewport keepLarger = true := by
  obtain ⟨first, more, rfl, noMark, noScreen, noOther, negated⟩ := unclear.exists_first
  by_cases is : first = "not"
  · subst is
    show (!(more.head?.any screenTypes.contains && features.isEmpty)) = true
    rcases negated rfl with some | behind
    · simp [some]
    · obtain ⟨second, others, rfl, -, noScreen, -, -⟩ := behind.exists_first
      simp [noScreen]
  · have read : readWords (first :: more) features = ⟨false, some first, features⟩ := by
      unfold readWords
      split
      · rename_i same
        exact absurd (List.cons.inj same).1 is
      · rename_i same
        exact absurd (List.cons.inj same).1 noMark
      · rfl
    rw [read, Media.Query.mayMatch]
    simp [noScreen, noOther]

theorem unclear_bracketed (features : List Feature) (text rest : List Char)
    : Unclear features (spare (bracketed text ++ rest)) := by
  obtain ⟨word, more, words⟩ := exists_spare_bracket (text ++ [')'] ++ rest)
  rw [bracketed, List.cons_append, words]
  exact .bracket word more

namespace Condition

theorem features_ne_nil_of_isFlat {condition : Condition} (flat : condition.isFlat = true)
    : condition.features ≠ [] := by
  induction condition with
  | atom own => simpa [features, isFlat] using flat
  | group => cases flat
  | not => cases flat
  | joined joiner left before after right ihLeft =>
    cases joiner with
    | or => cases flat
    | and =>
      rw [isFlat, Bool.and_eq_true] at flat
      simp [features, ihLeft flat.1]

/-- A flat condition leaves no words, and any other one starts with an unclear one.
Witness: induction on the condition; the first part that is not flat decides.
-/
theorem spare_head (condition : Condition) (rest : List Char)
    : (condition.isFlat = true → spare (condition.head ++ rest) = spare rest)
      ∧ (condition.isFlat = false →
        Unclear condition.features (spare (condition.head ++ rest))) := by
  induction condition generalizing rest with
  | atom own =>
    cases understood : own.isUnderstood with
    | true =>
      refine ⟨fun _ => by simp [head, understood], fun flat => ?_⟩
      simp [isFlat, understood] at flat
    | false =>
      refine ⟨fun flat => ?_, fun _ => ?_⟩
      · simp [isFlat, understood] at flat
      · simpa [head, understood] using unclear_bracketed _ own.inside rest
  | group before inside after =>
    exact ⟨fun flat => absurd flat Bool.false_ne_true, fun _ => unclear_bracketed _ _ rest⟩
  | not space inside ih =>
    refine ⟨fun flat => absurd flat Bool.false_ne_true, fun _ => ?_⟩
    have words
        : spare ((not space inside).head ++ rest) = "not" :: spare (inside.head ++ rest) := by
      rw [head, List.append_assoc, List.append_assoc]
      exact spare_word (by decide) (by decide) (by decide) space _
    rw [words]
    cases flat : inside.isFlat with
    | true => exact .notFeature (features_ne_nil_of_isFlat flat) _
    | false => exact .notUnclear ((ih rest).2 flat)
  | joined joiner left before after right ihLeft ihRight =>
    have text
        : (joined joiner left before after right).head ++ rest
          = left.head
            ++ (before.chars ++ (joiner.text ++ (after.chars ++ (right.head ++ rest)))) := by
      simp [head]
    obtain ⟨leftFlat, leftUnclear⟩ :=
      ihLeft (before.chars ++ (joiner.text ++ (after.chars ++ (right.head ++ rest))))
    obtain ⟨rightFlat, rightUnclear⟩ := ihRight rest
    rw [text]
    cases first : left.isFlat with
    | false =>
      refine ⟨fun flat => ?_, fun _ => (leftUnclear first).mono (List.subset_append_left _ _)⟩
      cases joiner <;> simp [isFlat, first] at flat
    | true =>
      rw [leftFlat first, spare_gap]
      cases joiner with
      | or =>
        refine ⟨fun flat => absurd flat Bool.false_ne_true, fun _ => ?_⟩
        have words
            : spare (Joiner.text .or ++ (after.chars ++ (right.head ++ rest)))
              = "or" :: spare (right.head ++ rest) :=
          spare_word (by decide) (by decide) (by decide) after _
        rw [words]
        exact .or _
      | and =>
        rw [Joiner.text, spare_and, isFlat, first, Bool.true_and]
        exact ⟨rightFlat,
          fun unclear => (rightUnclear unclear).mono (List.subset_append_right _ _)⟩

end Condition

--------------------------------------------------------------------------------
-- Whole queries
--------------------------------------------------------------------------------

/-- A media type as it is looked for. -/
def ScreenType.name : ScreenType → String
  | screen => "screen"
  | all => "all"

namespace Query

/-- The features of a query that are understood, in order. -/
def features : Query → List Feature
  | typed _ _ tail => (tail.map (·.condition.features)).getD []
  | untyped condition => condition.features

theorem takeFeatures_tail (tail : Option Tail)
    : ∃ rest,
        takeFeatures ((tail.map (·.text)).getD [])
          = (rest, (tail.map (·.condition.features)).getD [])
        ∧ (rest = [] ∨ ∃ (space : Break) (more : List Char), rest = space.chars ++ more) := by
  cases tail with
  | none => exact ⟨[], by simp [takeFeatures], .inl rfl⟩
  | some tail =>
    have taken := tail.condition.takeFeatures_text []
    rw [List.append_nil] at taken
    refine ⟨tail.before.chars ++ ("and".toList ++ (tail.after.chars ++ tail.condition.head)), ?_,
      .inr ⟨tail.before, _, rfl⟩⟩
    show takeFeatures tail.text = _
    rw [Tail.text, takeFeatures_append tail.before.noBracket, takeFeatures_append (by decide),
      takeFeatures_append tail.after.noBracket, taken]
    simp [pass, takeFeatures]

/-- A type is the word that a text starts with, if only whitespace follows it. -/
theorem exists_spare_type (type : ScreenType) {rest : List Char}
    (ends : rest = [] ∨ ∃ (space : Break) (more : List Char), rest = space.chars ++ more)
    : ∃ more, spare (type.text ++ rest) = type.name :: more := by
  rcases ends with rfl | ⟨space, more, rfl⟩
  · exact ⟨[], by cases type <;> decide⟩
  · refine ⟨spare more, ?_⟩
    cases type <;> exact spare_word (by decide) (by decide) (by decide) space more

/-- A query with a type is read with all of its features. -/
theorem read_typed {only : Option Break} {type : ScreenType} {tail : Option Tail}
    {text : List Char} (lowered : Text.lower text = (typed only type tail).text)
    : Media.Query.read text = ⟨false, some type.name, (typed only type tail).features⟩ := by
  obtain ⟨rest, taken, ends⟩ := takeFeatures_tail tail
  obtain ⟨more, words⟩ := exists_spare_type type ends
  have noBracket : '(' ∉ type.text := by cases type <;> decide
  rw [read_eq lowered]
  cases only with
  | none =>
    have own
        : takeFeatures (typed none type tail).text
          = (type.text ++ rest, (typed none type tail).features) := by
      show takeFeatures (type.text ++ _) = _
      rw [takeFeatures_append noBracket, taken]
      rfl
    rw [own]
    simp only [words]
    cases type <;> rfl
  | some space =>
    have own
        : takeFeatures (typed (some space) type tail).text
          = ("only".toList ++ (space.chars ++ (type.text ++ rest)),
            (typed (some space) type tail).features) := by
      show takeFeatures ("only".toList ++ space.chars ++ (type.text ++ _)) = _
      rw [List.append_assoc, takeFeatures_append (by decide), takeFeatures_append space.noBracket,
        takeFeatures_append noBracket, taken]
      rfl
    have start
        : spare ("only".toList ++ (space.chars ++ (type.text ++ rest)))
          = "only" :: type.name :: more := by
      rw [← words]
      exact spare_word (by decide) (by decide) (by decide) space _
    rw [own]
    simp only [start]
    rfl

/-- A query is taken for one that asks for all of its features, or for one that may always match.
-/
theorem mayMatch_read {query : Query} {text : List Char} (lowered : Text.lower text = query.text)
    (viewport : Viewport) (keepLarger : Bool)
    : (Media.Query.read text).mayMatch viewport keepLarger
      = (keepLarger || !query.isDismissed viewport) := by
  cases query with
  | typed only type tail =>
    rw [read_typed lowered]
    have dismissed
        : (typed only type tail).isDismissed viewport
          = (typed only type tail).features.any (·.rulesOut viewport) := by
      cases tail <;> rfl
    rw [dismissed]
    cases type <;> rfl
  | untyped condition =>
    have taken := condition.takeFeatures_text []
    rw [List.append_nil] at taken
    have own
        : takeFeatures (untyped condition).text = (condition.head ++ [], condition.features) := by
      rw [Query.text, taken]
      simp [pass, takeFeatures]
    rw [read_eq lowered, own]
    obtain ⟨whenFlat, whenUnclear⟩ := condition.spare_head []
    cases flat : condition.isFlat with
    | true =>
      simp only [whenFlat flat, isDismissed, flat, Bool.true_and]
      rfl
    | false =>
      have unclear := (whenUnclear flat).mayMatch viewport keepLarger
      simp only [unclear, isDismissed, flat]
      simp

end Query

--------------------------------------------------------------------------------
-- Lists of queries
--------------------------------------------------------------------------------

theorem Condition.getLast?_text (condition : Condition) : condition.text.getLast? = some ')' := by
  induction condition with
  | atom own => simp [text, bracketed, List.getLast?_cons]
  | group before inside after => simp [text, bracketed, List.getLast?_cons]
  | not space inside ih =>
    rw [text, List.getLast?_append, List.getLast?_append, ih]
    rfl
  | joined joiner left before after right _ ihRight => simp [text, ihRight, List.getLast?_append]

theorem Query.head?_text (query : Query)
    : ∃ first, query.text.head? = some first ∧ Text.isBlank first = false := by
  cases query with
  | untyped condition =>
    obtain ⟨first, rest, start, is⟩ := condition.exists_text
    refine ⟨first, by rw [text, start]; rfl, ?_⟩
    rcases is with rfl | rfl <;> decide
  | typed only type tail =>
    cases only with
    | some space => exact ⟨'o', rfl, by decide⟩
    | none => cases type <;> exact ⟨_, rfl, by decide⟩

theorem Query.getLast?_text (query : Query)
    : ∃ last, query.text.getLast? = some last ∧ Text.isBlank last = false := by
  cases query with
  | untyped condition => exact ⟨')', condition.getLast?_text, by decide⟩
  | typed only type tail =>
    cases tail with
    | some tail =>
      refine ⟨')', ?_, by decide⟩
      have ends : tail.text.getLast? = some ')' := by
        rw [Tail.text, List.getLast?_append, List.getLast?_append, List.getLast?_append,
          tail.condition.getLast?_text]
        rfl
      simp [text, List.getLast?_append, ends]
    | none =>
      have ends : ∃ last, type.text.getLast? = some last ∧ Text.isBlank last = false := by
        cases type <;> exact ⟨_, rfl, by decide⟩
      obtain ⟨last, ends, inside⟩ := ends
      exact ⟨last, by simp [text, List.getLast?_append, ends], inside⟩

/-- There is nothing around a query to trim. -/
theorem Query.trim_text (query : Query) : Text.trim query.text = query.text := by
  obtain ⟨first, start, startInside⟩ := query.head?_text
  obtain ⟨last, ends, endInside⟩ := query.getLast?_text
  refine Text.trim_of_ends ?_ ?_
  · rw [start]
    rintro _ ⟨⟩
    exact startInside
  · rw [ends]
    rintro _ ⟨⟩
    exact endInside

theorem Entry.trim_text (entry : Entry) : Text.trim entry.text = entry.query.text :=
  Text.trim_between entry.before.isBlank entry.after.isBlank entry.query.trim_text

/-- The queries of a list are found between its commas. -/
theorem queryTexts_intercalate (entries : List Entry)
    : queryTexts ([','].intercalate (entries.map (·.text))) = entries.map (·.query.text) := by
  by_cases none : entries = []
  · subst none
    decide
  have pieces
      : Text.splitCommas ([','].intercalate (entries.map (·.text))) = entries.map (·.text) := by
    refine Text.splitCommas_intercalate (by simpa using none) ?_
    simp only [List.mem_map, forall_exists_index, and_imp, forall_apply_eq_imp_iff₂]
    exact fun entry _ => ⟨entry.fits.free, entry.fits.balanced⟩
  have trimmed : Text.trim ∘ (·.text) = fun entry : Entry => entry.query.text :=
    funext Entry.trim_text
  rw [queryTexts, pieces, List.map_map, trimmed]
  refine List.filter_eq_self.mpr ?_
  simp only [List.mem_map, forall_exists_index, and_imp, forall_apply_eq_imp_iff₂]
  intro entry _
  obtain ⟨first, start, -⟩ := entry.query.head?_text
  cases text : entry.query.text with
  | nil =>
    rw [text] at start
    cases start
  | cons => rfl

theorem queryTexts_map_toLower (text : List Char)
    : queryTexts (text.map Char.toLower) = (queryTexts text).map (·.map Char.toLower) := by
  have trimmed : Text.trim ∘ List.map Char.toLower = List.map Char.toLower ∘ Text.trim :=
    funext Text.trim_map_toLower
  have empty
      : (fun piece : List Char => !piece.isEmpty) ∘ List.map Char.toLower
        = fun piece => !piece.isEmpty := by
    funext piece
    cases piece <;> rfl
  rw [queryTexts, queryTexts, Text.splitCommas_map_toLower, List.map_map, trimmed, ← List.map_map,
    List.filter_map, empty]

/-- In lower case the text of a query is what it is read from. -/
theorem Query.lower_eq {query : Query} {text : List Char}
    (spelled : text.map Char.toLower = query.text)
    : Text.lower text = query.text := by
  have ascii : Text.IsAscii text := by
    refine Text.isAscii_of_map_toLower ?_
    rw [spelled]
    exact query.fits.ascii
  rw [Text.lower_of_isAscii ascii, spelled]

/-- Texts that spell queries are decided one by one. -/
theorem any_mayMatch_read {texts : List (List Char)} {entries : List Entry}
    (found : texts.map (·.map Char.toLower) = entries.map (·.query.text)) (viewport : Viewport)
    (keepLarger : Bool)
    : texts.isEmpty = entries.isEmpty
      ∧ (texts.any fun text => (Media.Query.read text).mayMatch viewport keepLarger)
        = entries.any fun entry => keepLarger || !entry.query.isDismissed viewport := by
  induction entries generalizing texts with
  | nil =>
    obtain rfl := List.map_eq_nil_iff.mp found
    exact ⟨rfl, rfl⟩
  | cons entry others ih =>
    obtain ⟨text, rest, rfl, own, later⟩ := List.map_eq_cons_iff.mp found
    rw [List.any_cons, List.any_cons, (ih later).2, Query.mayMatch_read (Query.lower_eq own)]
    exact ⟨rfl, rfl⟩

/-- A list may match if one of its queries does. -/
theorem mayMatch_eq {prelude : String} {entries : List Entry} (spelled : Spells prelude entries)
    (viewport : Viewport) (keepLarger : Bool)
    : mayMatch prelude viewport keepLarger
      = (entries.isEmpty
        || entries.any fun entry => keepLarger || !entry.query.isDismissed viewport) := by
  have found
      : (queryTexts prelude.toList).map (·.map Char.toLower) = entries.map (·.query.text) := by
    rw [← queryTexts_map_toLower, spelled, queryTexts_intercalate]
  obtain ⟨empty, any⟩ := any_mayMatch_read found viewport keepLarger
  rw [mayMatch]
  simp only [empty, any]

end CriticalCss.Media.Written
