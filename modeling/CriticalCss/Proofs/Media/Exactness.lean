import CriticalCss.Proofs.Media.Deciding
import CriticalCss.Proofs.Media.WholeLengths

/-! What is decided about queries whose parts are joined by "and" alone, in any case and over all
scripts: exactly what their types and their lower bounds in whole lengths say. The text is cut at
its commas, put in lower case, freed of its features and cut into words; each step finds the parts
that the text is written from.
-/

namespace CriticalCss.Media.Joined

open Text (Lowered)
open Written (Digits Mantissa takeFeatures_append takeFeatures_of_some readFeature_name
  readFeature_value spare spare_append spare_blanks spare_of_whole)

--------------------------------------------------------------------------------
-- Parts of a text in lower case
--------------------------------------------------------------------------------

theorem Blanks.exists_lowered (blanks : Blanks) {rest own : List Char}
    (lowered : Lowered (blanks.chars ++ rest) own)
    : ∃ later, own = blanks.chars ++ later ∧ Lowered rest later := by
  obtain ⟨first, later, rfl, low, behind⟩ := lowered.exists_append
  exact ⟨later, by rw [low.eq_of_isBlank blanks.blank], behind⟩

theorem Blanks.not_mem (blanks : Blanks) {mark : Char} (inside : Text.isBlank mark = false)
    : mark ∉ blanks.chars := by
  intro member
  rw [blanks.blank mark member] at inside
  cases inside

theorem Spaces.isBlank_of_head? (space : Spaces) (rest : List Char)
    : ∀ c ∈ (space.chars ++ rest).head?, Text.isBlank c = true :=
  Written.isBlank_of_head?_append space.some space.blank rest

theorem exists_lowered_of_isAscii {front rest own : List Char} (ascii : Text.IsAscii front)
    (lowered : Lowered (front ++ rest) own)
    : ∃ later, own = front.map Char.toLower ++ later ∧ Lowered rest later := by
  obtain ⟨first, later, rfl, low, behind⟩ := lowered.exists_append
  exact ⟨later, by rw [low.eq_of_isAscii ascii], behind⟩

theorem Spelled.exists_lowered {word : String} (spelled : Spelled word)
    (ascii : word.toList.all (·.toNat < 128) = true) {rest own : List Char}
    (lowered : Lowered (spelled.chars ++ rest) own)
    : ∃ later, own = word.toList ++ later ∧ Lowered rest later := by
  have letters : Text.IsAscii (spelled.chars.map Char.toLower) := by
    rw [spelled.same]
    exact fun c member => of_decide_eq_true (List.all_eq_true.mp ascii c member)
  rw [← spelled.same]
  exact exists_lowered_of_isAscii (Text.isAscii_of_map_toLower letters) lowered

--------------------------------------------------------------------------------
-- Features
--------------------------------------------------------------------------------

theorem rulesOut_iff (feature : Media.Feature) (viewport : Viewport)
    : feature.rulesOut viewport = true
      ↔ ∃ size ∈ feature.bounded? viewport,
          ∃ number ∈ feature.value.bind pixels?, number.exceeds size = true := by
  unfold Media.Feature.rulesOut
  split
  · rename_i size number bounded read
    simp [bounded, read]
  · rename_i missing
    simp only [Bool.false_eq_true, false_iff, not_exists, not_and]
    intro size bounded number read
    exact absurd read (missing size number bounded)

/-- The value of a feature is found between its blanks. -/
theorem Value.exists_lowered (value : Value) {rest own : List Char}
    (lowered : Lowered (value.text ++ rest) own)
    : ∃ chars later,
        own = value.before.chars ++ chars ++ value.after.chars ++ later
        ∧ Lowered value.chars chars
        ∧ Lowered rest later := by
  rw [Value.text, List.append_assoc, List.append_assoc] at lowered
  obtain ⟨_, rfl, behindBlanks⟩ := value.before.exists_lowered lowered
  obtain ⟨chars, _, rfl, inner, behindChars⟩ := behindBlanks.exists_append
  obtain ⟨later, rfl, behind⟩ := value.after.exists_lowered behindChars
  exact ⟨chars, later, by simp, inner, behind⟩

namespace Feature

variable (feature : Feature)

theorem ascii_name : Text.IsAscii feature.name := by
  intro c member
  rcases feature.letters c member with letter | rfl
  · exact Text.toNat_lt_of_isAlpha letter
  · decide

theorem isFeatureChar_of_mem : ∀ c ∈ feature.name.map Char.toLower, isFeatureChar c = true := by
  rw [List.forall_mem_map]
  intro c member
  exact Text.forall_ascii
    (P := fun c => c.isAlpha = true ∨ c = '-' → isFeatureChar c.toLower = true) (by decide)
    (feature.ascii_name c member) (feature.letters c member)

/-- What is read rules out a viewport exactly if the feature does not fit it. -/
def IsReadAs (read : Media.Feature) : Prop :=
  ∀ viewport, read.rulesOut viewport = false ↔ feature.Fits viewport

/-- It is enough to read the name, and the value as the length that it is. -/
theorem isReadAs_of_value {read : Media.Feature} (name : read.name = feature.name.map Char.toLower)
    (value : ∀ size,
      (∃ number ∈ read.value.bind Media.pixels?, number.exceeds size = true)
        ↔ ∃ pixels ∈ feature.pixels?, size < (pixels : Int))
    : feature.IsReadAs read := by
  intro viewport
  have dimension : read.bounded? viewport = feature.dimension? viewport := by
    rw [Media.Feature.bounded?, name]
    rfl
  rw [← Bool.not_eq_true, rulesOut_iff, dimension, Fits]
  simp only [value, not_exists, not_and, Int.not_lt]

/-- A feature is taken out of a text wherever it stands, and counts for what it is. -/
theorem exists_takeFeatures {own : List Char} (lowered : Lowered feature.text own)
    : ∃ read : Media.Feature,
        (∀ rest, takeFeatures (own ++ rest) = Written.pass [] [read] (takeFeatures rest))
        ∧ feature.IsReadAs read := by
  have filled : feature.name.map Char.toLower ≠ [] := by simpa using feature.named
  obtain ⟨_, rfl, inside⟩ := lowered.exists_cons (by decide)
  obtain ⟨_, rfl, atName⟩ := feature.before.exists_lowered inside
  obtain ⟨_, rfl, behindName⟩ := exists_lowered_of_isAscii feature.ascii_name atName
  obtain ⟨own, rfl, ending⟩ := feature.after.exists_lowered behindName
  cases valued : feature.value with
  | none =>
    rw [valued] at ending
    obtain ⟨_, rfl, nothing⟩ := ending.exists_cons (by decide)
    cases nothing
    refine ⟨⟨feature.name.map Char.toLower, none⟩, fun rest => ?_, ?_⟩
    · have read := readFeature_name feature.before.blank filled feature.isFeatureChar_of_mem
        feature.after.blank rest
      simpa using takeFeatures_of_some read
    · refine feature.isReadAs_of_value rfl fun size => ?_
      simp [pixels?, valued]
  | some value =>
    rw [valued] at ending
    obtain ⟨_, rfl, atValue⟩ := ending.exists_cons (by decide)
    obtain ⟨chars, _, rfl, inner, atEnd⟩ := value.exists_lowered atValue
    obtain ⟨_, rfl, nothing⟩ := atEnd.exists_cons (by decide)
    cases nothing
    have trimmed : Text.trim (value.before.chars ++ chars ++ value.after.chars) = chars :=
      Text.trim_between value.before.blank value.after.blank (inner.trim_eq value.trimmed)
    have noEnd : ')' ∉ value.before.chars ++ chars ++ value.after.chars := by
      have inside : ')' ∉ chars := inner.not_mem_of_isLowMark (by decide) fun c member _ =>
        (value.free c member).2.2
      simp only [List.mem_append, not_or]
      exact ⟨⟨value.before.not_mem (by decide), inside⟩, value.after.not_mem (by decide)⟩
    refine ⟨⟨feature.name.map Char.toLower, some chars⟩, fun rest => ?_, ?_⟩
    · have read := readFeature_value feature.before.blank filled feature.isFeatureChar_of_mem
        feature.after.blank (by rw [trimmed]; exact inner.ne_nil value.filled) noEnd rest
      rw [trimmed] at read
      simpa using takeFeatures_of_some read
    · refine feature.isReadAs_of_value rfl fun size => ?_
      rw [pixels?, valued]
      exact Value.exists_exceeds_iff inner size

end Feature

theorem any_rulesOut_iff {features : List Feature} {read : List Media.Feature}
    (each : List.Forall₂ Feature.IsReadAs features read) (viewport : Viewport)
    : read.any (·.rulesOut viewport) = false ↔ ∀ feature ∈ features, feature.Fits viewport := by
  induction each with
  | nil => simp
  | cons first _ ih => rw [List.any_cons, Bool.or_eq_false_iff, first, ih, List.forall_mem_cons]

--------------------------------------------------------------------------------
-- Queries
--------------------------------------------------------------------------------

/-- Further parts leave no words but the one that joins them, and a blank in front of it.
Witness: induction on the parts.
-/
theorem exists_takeFeatures_parts (parts : List Part) {own : List Char}
    (lowered : Lowered (parts.flatMap (·.text)) own)
    : ∃ head read,
        takeFeatures own = (head, read)
        ∧ (∀ c ∈ head.head?, Text.isBlank c = true)
        ∧ spare head = []
        ∧ List.Forall₂ Feature.IsReadAs (parts.map (·.feature)) read := by
  induction parts generalizing own with
  | nil =>
    cases lowered
    exact ⟨[], [], by simp [takeFeatures], by simp, rfl, .nil⟩
  | cons part others ih =>
    rw [List.flatMap_cons, Part.text] at lowered
    simp only [List.append_assoc] at lowered
    obtain ⟨_, rfl, atWord⟩ := part.before.exists_lowered lowered
    obtain ⟨_, rfl, behindWord⟩ := part.joiner.exists_lowered (by decide) atWord
    obtain ⟨_, rfl, atFeature⟩ := part.after.exists_lowered behindWord
    obtain ⟨inner, _, rfl, inside, behind⟩ := atFeature.exists_append
    obtain ⟨first, taken, isFirst⟩ := part.feature.exists_takeFeatures inside
    obtain ⟨head, read, later, start, words, each⟩ := ih behind
    refine ⟨part.before.chars ++ ("and".toList ++ (part.after.chars ++ head)), first :: read,
      ?_, part.before.isBlank_of_head? _, ?_, .cons isFirst each⟩
    · rw [takeFeatures_append (part.before.not_mem (by decide)),
        takeFeatures_append (by decide), takeFeatures_append (part.after.not_mem (by decide)),
        taken, later]
      simp [Written.pass]
    · rw [spare_blanks part.before.blank, spare_append (part.after.isBlank_of_head? _),
        spare_blanks part.after.blank, words]
      decide

/-- The type of a query is the only word that it leaves, the mark in front of it apart. -/
theorem exists_takeFeatures_type (type : MediaType) (parts : List Part) {own : List Char}
    (lowered : Lowered (type.chars ++ parts.flatMap (·.text)) own)
    : ∃ head read,
        takeFeatures own = (head, read)
        ∧ spare head = [String.ofList (type.chars.map Char.toLower)]
        ∧ List.Forall₂ Feature.IsReadAs (parts.map (·.feature)) read := by
  obtain ⟨_, rfl, behind⟩ := exists_lowered_of_isAscii type.ascii lowered
  obtain ⟨head, read, later, start, words, each⟩ := exists_takeFeatures_parts parts behind
  have noBracket : '(' ∉ type.chars.map Char.toLower := by
    intro member
    obtain ⟨c, inside, same⟩ := List.mem_map.mp member
    exact (type.free c inside).2.1 ((Text.toLower_eq_iff (by decide)).mp same)
  have whole : ∀ c ∈ type.chars.map Char.toLower, Text.isBlank c = false := by
    rw [List.forall_mem_map]
    exact fun c member => (Text.isBlank_toLower c).trans (type.whole c member)
  have filled : type.chars.map Char.toLower ≠ [] := by simpa using type.filled
  have noJoiner : String.ofList (type.chars.map Char.toLower) ≠ "and" := fun same =>
    type.other (by rw [same]; decide)
  refine ⟨type.chars.map Char.toLower ++ head, read, ?_, ?_, each⟩
  · rw [takeFeatures_append noBracket, later]
    simp [Written.pass]
  · rw [spare_append start, spare_of_whole filled whole, if_neg noJoiner, words]
    rfl

theorem readWords_type {word : String} (other : word ∉ ["not", "only", "and"])
    (read : List Media.Feature)
    : Written.readWords [word] read = ⟨false, some word, read⟩ := by
  simp only [List.mem_cons, not_or] at other
  unfold Written.readWords
  split
  · rename_i same
    exact absurd (List.cons.inj same).1 other.1
  · rename_i same
    exact absurd (List.cons.inj same).1 other.2.1
  · rfl

namespace Query

theorem text_only (word : Spelled "only") (space : Spaces) (type : MediaType) (parts : List Part)
    : (typed (some (word, space)) type parts).text
      = word.chars ++ (space.chars ++ (type.chars ++ parts.flatMap (·.text))) :=
  List.append_assoc _ _ _

/-- A query is read with its type and with all of its features. -/
theorem exists_read (query : Query)
    : ∃ read,
        Media.Query.read query.text = ⟨false, query.type?, read⟩
        ∧ List.Forall₂ Feature.IsReadAs query.features read := by
  have lowered := Text.lowered_lower query.text
  rw [Written.read_eq rfl]
  generalize Text.lower query.text = own at lowered ⊢
  cases query with
  | untyped first parts =>
    obtain ⟨inner, _, rfl, inside, behind⟩ := lowered.exists_append
    obtain ⟨read, taken, isFirst⟩ := first.exists_takeFeatures inside
    obtain ⟨head, others, later, -, words, each⟩ := exists_takeFeatures_parts parts behind
    refine ⟨read :: others, ?_, .cons isFirst each⟩
    rw [taken, later]
    simp only [Written.pass, List.nil_append, words]
    rfl
  | typed only type parts =>
    cases only with
    | none =>
      obtain ⟨head, read, taken, words, each⟩ := exists_takeFeatures_type type parts lowered
      refine ⟨read, ?_, each⟩
      rw [taken, words]
      exact readWords_type type.other read
    | some mark =>
      obtain ⟨word, space⟩ := mark
      rw [text_only] at lowered
      obtain ⟨_, rfl, behindWord⟩ := word.exists_lowered (by decide) lowered
      obtain ⟨_, rfl, atType⟩ := space.exists_lowered behindWord
      obtain ⟨head, read, taken, words, each⟩ := exists_takeFeatures_type type parts atType
      have marked
          : spare ("only".toList ++ (space.chars ++ head))
            = ["only", String.ofList (type.chars.map Char.toLower)] := by
        rw [spare_append (space.isBlank_of_head? _), spare_blanks space.blank, words]
        rfl
      refine ⟨read, ?_, each⟩
      rw [takeFeatures_append (by decide), takeFeatures_append (space.not_mem (by decide)), taken]
      simp only [Written.pass, List.nil_append, marked]
      rfl

theorem mayMatch_read_iff (query : Query) (viewport : Viewport) (keepLarger : Bool)
    : (Media.Query.read query.text).mayMatch viewport keepLarger = true
      ↔ query.Matches viewport keepLarger := by
  obtain ⟨read, found, each⟩ := query.exists_read
  have fits := any_rulesOut_iff each viewport
  rw [found, Media.Query.mayMatch, Matches, ← fits]
  cases query.type? with
  | none => simp
  | some type =>
    by_cases other : type ∈ otherTypes
    · simp [other]
    · by_cases screen : type ∈ screenTypes
      · simp [other, screen]
      · simp [other, screen]

end Query

--------------------------------------------------------------------------------
-- Lists of queries
--------------------------------------------------------------------------------

/-- A text that is cut nowhere: no comma is in it, and all of its brackets are closed. -/
def IsUncut (text : List Char) : Prop :=
  ',' ∉ text ∧ Text.IsBalanced text

theorem IsUncut.append {front rest : List Char} (first : IsUncut front) (second : IsUncut rest)
    : IsUncut (front ++ rest) :=
  ⟨by simp [first.1, second.1], first.2.append second.2⟩

theorem IsUncut.inBrackets {text : List Char} (inside : IsUncut text)
    : IsUncut ('(' :: (text ++ [')'])) :=
  ⟨by simp [inside.1], inside.2.inBrackets⟩

theorem isUncut_of_isFree {text : List Char} (free : ∀ c ∈ text, IsFree c) : IsUncut text :=
  ⟨fun comma => (free _ comma).1 rfl, Text.isBalanced_of_plain fun c member => (free c member).2⟩

theorem Blanks.isFree (blanks : Blanks) : ∀ c ∈ blanks.chars, IsFree c := by
  intro c member
  refine ⟨?_, ?_, ?_⟩ <;> rintro rfl <;> exact blanks.not_mem (by decide) member

theorem Spelled.isFree {word : String} (spelled : Spelled word)
    (free : word.toList.all (IsFree ·) = true)
    : ∀ c ∈ spelled.chars, IsFree c := by
  intro c member
  have small : c.toLower ∈ word.toList := spelled.same ▸ List.mem_map_of_mem member
  obtain ⟨noComma, noOpen, noClose⟩ := of_decide_eq_true (List.all_eq_true.mp free _ small)
  refine ⟨?_, ?_, ?_⟩
  · rintro rfl
    exact noComma rfl
  · rintro rfl
    exact noOpen rfl
  · rintro rfl
    exact noClose rfl

theorem Feature.isUncut_text (feature : Feature) : IsUncut feature.text := by
  have name : ∀ c ∈ feature.name, IsFree c := by
    intro c member
    exact Text.forall_ascii (P := fun c => c.isAlpha = true ∨ c = '-' → IsFree c) (by decide)
      (feature.ascii_name c member) (feature.letters c member)
  have ending : ∀ c ∈ (feature.value.map fun value => ':' :: value.text).getD [], IsFree c := by
    cases feature.value with
    | none => simp
    | some value =>
      refine List.forall_mem_cons.mpr ⟨by decide, ?_⟩
      exact List.forall_mem_append.mpr ⟨value.before.isFree,
        List.forall_mem_append.mpr ⟨value.free, value.after.isFree⟩⟩
  have inside := (isUncut_of_isFree feature.before.isFree).append
    ((isUncut_of_isFree name).append
      ((isUncut_of_isFree feature.after.isFree).append (isUncut_of_isFree ending)))
  simpa [text] using inside.inBrackets

theorem isUncut_parts (parts : List Part) : IsUncut (parts.flatMap (·.text)) := by
  induction parts with
  | nil => exact isUncut_of_isFree (by simp)
  | cons part others ih =>
    refine IsUncut.append ?_ ih
    exact (isUncut_of_isFree part.before.isFree).append
      ((isUncut_of_isFree (part.joiner.isFree (by decide))).append
        ((isUncut_of_isFree part.after.isFree).append part.feature.isUncut_text))

theorem Query.isUncut_text (query : Query) : IsUncut query.text := by
  cases query with
  | untyped first parts => exact first.isUncut_text.append (isUncut_parts parts)
  | typed only type parts =>
    have behind := (isUncut_of_isFree type.free).append (isUncut_parts parts)
    cases only with
    | none => exact behind
    | some mark =>
      rw [text_only]
      exact (isUncut_of_isFree (mark.1.isFree (by decide))).append
        ((isUncut_of_isFree mark.2.isFree).append behind)

/-- A text that starts and ends with something else than a blank. -/
def IsTrimmed (text : List Char) : Prop :=
  text ≠ [] ∧ Text.trim text = text

theorem IsTrimmed.enclose {front back : List Char} (first : IsTrimmed front) (last : IsTrimmed back)
    (between : List Char)
    : IsTrimmed (front ++ (between ++ back)) := by
  have start := (Text.isBlank_ends_trim front).1
  have ends := (Text.isBlank_ends_trim back).2
  rw [first.2] at start
  rw [last.2] at ends
  refine ⟨by simp [first.1], Text.trim_of_ends ?_ ?_⟩
  · rwa [List.head?_append_of_ne_nil _ first.1]
  · rwa [List.getLast?_append_of_ne_nil _ (by simp [last.1]),
      List.getLast?_append_of_ne_nil _ last.1]

theorem isTrimmed_of_whole {text : List Char} (filled : text ≠ [])
    (whole : ∀ c ∈ text, Text.isBlank c = false)
    : IsTrimmed text :=
  ⟨filled, Text.trim_of_ends (fun c first => whole c (List.mem_of_mem_head? first))
    fun c last => whole c (List.mem_of_getLast? last)⟩

theorem Spelled.isTrimmed {word : String} (spelled : Spelled word) (filled : word.toList ≠ [])
    (whole : word.toList.all (!Text.isBlank ·) = true)
    : IsTrimmed spelled.chars := by
  refine isTrimmed_of_whole (fun none => filled ?_) fun c member => ?_
  · rw [← spelled.same, none, List.map_nil]
  · have small : c.toLower ∈ word.toList := spelled.same ▸ List.mem_map_of_mem member
    rw [← Text.isBlank_toLower]
    simpa using List.all_eq_true.mp whole _ small

theorem Feature.isTrimmed_text (feature : Feature) : IsTrimmed feature.text := by
  have mark {c : Char} (inside : Text.isBlank c = false) : IsTrimmed [c] :=
    isTrimmed_of_whole (by simp) (by simpa using inside)
  have enclosed := (mark (c := '(') (by decide)).enclose (mark (c := ')') (by decide))
    (feature.before.chars ++ (feature.name ++ (feature.after.chars
      ++ (feature.value.map fun value => ':' :: value.text).getD [])))
  simpa [text] using enclosed

/-- Further parts end with a bracket. -/
theorem IsTrimmed.append_parts {front : List Char} (first : IsTrimmed front) (parts : List Part)
    : IsTrimmed (front ++ parts.flatMap (·.text)) := by
  induction parts generalizing front with
  | nil => simpa using first
  | cons part others ih =>
    have next := first.enclose part.feature.isTrimmed_text
      (part.before.chars ++ (part.joiner.chars ++ part.after.chars))
    simpa [Part.text] using ih next

theorem Query.isTrimmed_text (query : Query) : IsTrimmed query.text := by
  cases query with
  | untyped first parts => exact first.isTrimmed_text.append_parts parts
  | typed only type parts =>
    have behind := (isTrimmed_of_whole type.filled type.whole).append_parts parts
    cases only with
    | none => exact behind
    | some mark =>
      rw [text_only]
      exact (mark.1.isTrimmed (by decide) (by decide)).enclose behind mark.2.chars

theorem queryTexts_listText {entries : List Entry} (some : entries ≠ [])
    : queryTexts (listText entries) = entries.map (·.query.text) := by
  have pieces : Text.splitCommas (listText entries) = entries.map (·.text) := by
    refine Text.splitCommas_intercalate (by simpa using some) ?_
    rw [List.forall_mem_map]
    exact fun entry _ => ((isUncut_of_isFree entry.before.isFree).append
      entry.query.isUncut_text).append (isUncut_of_isFree entry.after.isFree)
  have trimmed (entry : Entry) : Text.trim entry.text = entry.query.text :=
    Text.trim_between entry.before.blank entry.after.blank entry.query.isTrimmed_text.2
  rw [queryTexts, pieces, List.map_map, List.filter_eq_self.mpr]
  · exact List.map_congr_left fun entry _ => trimmed entry
  · rw [List.forall_mem_map]
    intro entry _
    simpa [trimmed] using entry.query.isTrimmed_text.1

/-- A list of queries may match a viewport exactly if one of the queries matches it, by its type and
by its lower bounds in whole lengths.
Witness: cut at its commas, the list is found again; each query is read in lower case with its type
and its features.
-/
theorem mayMatch_iff_matches {prelude : String} {entries : List Entry} (some : entries ≠ [])
    (written : prelude.toList = listText entries) (viewport : Viewport) (keepLarger : Bool)
    : mayMatch prelude viewport keepLarger = true
      ↔ ∃ entry ∈ entries, entry.query.Matches viewport keepLarger := by
  simp only [mayMatch, written, queryTexts_listText some, Bool.or_eq_true, List.isEmpty_iff,
    List.map_eq_nil_iff, some, false_or, List.any_map, List.any_eq_true, Function.comp_apply,
    Query.mayMatch_read_iff]

theorem isBlank_of_mem_nil : ∀ c ∈ ([] : List Char), Text.isBlank c = true :=
  List.forall_mem_nil _

def noBlanks : Blanks :=
  ⟨[], isBlank_of_mem_nil⟩

def space : Spaces :=
  ⟨⟨[' '], List.all_eq_true.mp (by decide)⟩, by decide⟩

/-- A feature with a value and without any blanks around them. -/
def tightFeature (name chars : String)
    (named : name.toList ≠ [] ∧ name.toList.all (fun c => c.isAlpha ∨ c = '-') = true)
    (valued : chars.toList ≠ [] ∧ Text.trim chars.toList = chars.toList)
    (free : chars.toList.all (IsFree ·) = true) (content : Content chars.toList)
    : Feature where
  before := noBlanks
  name := name.toList
  named := named.1
  letters := List.all_iff_forall_prop.mp named.2
  after := noBlanks
  value := some ⟨noBlanks, chars.toList, valued.1, valued.2, List.all_iff_forall_prop.mp free,
    content, noBlanks⟩

def letterType (word : String) (filled : word.toList ≠ [])
    (letters : word.toList.all Char.isAlpha = true)
    (other : String.ofList (word.toList.map Char.toLower) ∉ ["not", "only", "and"])
    : MediaType where
  chars := word.toList
  filled := filled
  ascii := fun c member => Text.toNat_lt_of_isAlpha (List.all_eq_true.mp letters c member)
  whole := fun c member => by
    refine Bool.eq_false_iff.mpr fun blank => ?_
    have letter := List.all_eq_true.mp letters c member
    rw [Text.isAlpha_of_isBlank blank] at letter
    cases letter
  free := fun c member => by
    have letter := List.all_eq_true.mp letters c member
    refine ⟨?_, ?_, ?_⟩ <;> rintro rfl <;> cases letter
  other := other

/-- `Only SCREEN and (Min-Width:82 EM) `, where the blanks at the end count as well. -/
def wideScreens : Entry :=
  let ems : WholeLength :=
    ⟨⟨"82".toList, List.all_eq_true.mp (by decide), by decide⟩, by decide, space.toBlanks,
      "EM".toList, by decide⟩
  let width := tightFeature "Min-Width" "82 EM" (by decide) (by decide) (by decide)
    (.whole ems (by decide))
  let screen := letterType "SCREEN" (by decide) (by decide) (by decide)
  ⟨noBlanks, .typed (some (⟨"Only".toList, by decide⟩, space)) screen
    [⟨space, ⟨"and".toList, by decide⟩, space, width⟩], space.toBlanks⟩

/-- ` print AND (orientation:portrait)`, with a value that is no length. -/
def printers : Entry :=
  let orientation := tightFeature "orientation" "portrait" (by decide) (by decide) (by decide)
    (.other fun is => absurd (is.isFaithful 'i' (by decide)) (by decide))
  let print := letterType "print" (by decide) (by decide) (by decide)
  ⟨space.toBlanks, .typed none print [⟨space, ⟨"AND".toList, by decide⟩, space, orientation⟩],
    noBlanks⟩

theorem mayMatch_iff_matches_wideScreens
    : [wideScreens, printers] ≠ []
      ∧ "Only SCREEN and (Min-Width:82 EM) , print AND (orientation:portrait)".toList
        = listText [wideScreens, printers]
      ∧ mayMatch "Only SCREEN and (Min-Width:82 EM) , print AND (orientation:portrait)"
          ⟨1311, 900⟩ false = false
      ∧ mayMatch "Only SCREEN and (Min-Width:82 EM) , print AND (orientation:portrait)"
          ⟨1312, 900⟩ false = true := by
  have some : [wideScreens, printers] ≠ [] := List.cons_ne_nil _ _
  have written
      : "Only SCREEN and (Min-Width:82 EM) , print AND (orientation:portrait)".toList
        = listText [wideScreens, printers] := by
    decide
  have iff := mayMatch_iff_matches some written
  refine ⟨some, written, ?_, ?_⟩
  · exact Bool.eq_false_iff.mpr fun matching => absurd ((iff _ _).mp matching) (by decide)
  · exact (iff _ _).mpr (by decide)

/-- A length with a sign bounds nothing, although it is whole. -/
theorem mayMatch_of_plus
    : ∃ length : Written.Length,
        "(min-width: +2000px)".toList = "(min-width: ".toList ++ (length.text ++ [')'])
        ∧ length.number = 2000
        ∧ length.unit = "px".toList
        ∧ mayMatch "(min-width: +2000px)" ⟨1300, 900⟩ false = true := by
  let digits : Digits := ⟨"2000".toList, List.all_eq_true.mp (by decide), by decide⟩
  have value : Text.digitsValue 10 "2000".toList = 2000 := by decide
  refine ⟨⟨some .plus, .whole digits, none, "px".toList, List.forall_iff_forall_mem.mp (by decide)⟩,
    by decide, ?_, rfl, by decide +kernel⟩
  norm_num [Written.Length.number, Written.Sign.factor, Mantissa.digits, Mantissa.places, digits,
    value]

end CriticalCss.Media.Joined
