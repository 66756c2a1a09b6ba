import CriticalCss.Proofs.Media.Lengths

/-! What is read of a query that is written out. Features that are understood are taken out of their
places, one by one and wherever they stand, and what is left of the text counts by its first words
only: those of a query with a type, and none where features are joined by "and" alone. Everything
else leaves a word that is no media type.
-/

namespace CriticalCss.Media.Written

--------------------------------------------------------------------------------
-- Texts without commas
--------------------------------------------------------------------------------

/-- A text that can stand between the commas of a list. -/
structure Fits (text : List Char) : Prop where
  ascii : Text.IsAscii text
  free : ',' ∉ text
  balanced : Text.IsBalanced text

theorem Fits.append {front rest : List Char} (first : Fits front) (second : Fits rest)
    : Fits (front ++ rest) where
  ascii := first.ascii.append second.ascii
  free member := (List.mem_append.mp member).elim first.free second.free
  balanced := first.balanced.append second.balanced

theorem Fits.bracketed {text : List Char} (inside : Fits text) : Fits (bracketed text) where
  ascii := by
    refine List.forall_mem_cons.mpr ⟨by decide, inside.ascii.append ?_⟩
    rintro c member
    obtain rfl := List.mem_singleton.mp member
    decide
  free := by simp [Written.bracketed, inside.free]
  balanced := inside.balanced.inBrackets

/-- A character that takes part in no cut at commas. -/
structure IsQuiet (c : Char) : Prop where
  ascii : c.toNat < 128
  free : c ≠ ',' ∧ c ≠ '(' ∧ c ≠ ')'

instance (c : Char) : Decidable (IsQuiet c) :=
  decidable_of_iff (c.toNat < 128 ∧ c ≠ ',' ∧ c ≠ '(' ∧ c ≠ ')')
    ⟨fun ⟨ascii, free⟩ => ⟨ascii, free⟩, fun is => ⟨is.ascii, is.free⟩⟩

theorem fits_of_isQuiet {text : List Char} (quiet : ∀ c ∈ text, IsQuiet c) : Fits text where
  ascii c member := (quiet c member).ascii
  free member := (quiet ',' member).free.1 rfl
  balanced := Text.isBalanced_of_plain fun c member => (quiet c member).free.2

theorem fits_of_all {text : List Char} (quiet : text.all (IsQuiet ·) = true) : Fits text :=
  fits_of_isQuiet (List.all_iff_forall_prop.mp quiet)

theorem noBracket_of_isQuiet {text : List Char} (quiet : ∀ c ∈ text, IsQuiet c) : '(' ∉ text :=
  fun member => (quiet '(' member).free.2.1 rfl

theorem IsPlain.isQuiet {c : Char} (is : IsPlain c) : IsQuiet c :=
  ⟨is.ascii, is.free⟩

--------------------------------------------------------------------------------
-- Blanks and names
--------------------------------------------------------------------------------

/-- What makes whitespace what it is to the reader. -/
structure IsBetween (c : Char) : Prop where
  quiet : IsQuiet c
  blank : Text.isBlank c = true
  noName : isFeatureChar c = false

theorem isBetween_of_isSpace {c : Char} (space : isSpace c = true) : IsBetween c := by
  simp only [isSpace, Bool.or_eq_true, beq_iff_eq] at space
  rcases space with (((rfl | rfl) | rfl) | rfl) | rfl <;>
    exact ⟨⟨by decide, by decide⟩, by decide, by decide⟩

theorem Gap.isBlank (gap : Gap) : ∀ c ∈ gap.chars, Text.isBlank c = true :=
  fun c member => (isBetween_of_isSpace (gap.spaces c member)).blank

theorem Gap.isQuiet_of_mem {gap : Gap} {c : Char} (member : c ∈ gap.chars) : IsQuiet c :=
  (isBetween_of_isSpace (gap.spaces c member)).quiet

theorem Gap.noBracket (gap : Gap) : '(' ∉ gap.chars :=
  noBracket_of_isQuiet fun _ => gap.isQuiet_of_mem

theorem Gap.fits (gap : Gap) : Fits gap.chars :=
  fits_of_isQuiet fun _ => gap.isQuiet_of_mem

/-- Whitespace in front of a text is trimmed up to the text. -/
theorem Gap.trimStart_append (gap : Gap) {text : List Char}
    (start : ∀ c ∈ text.head?, Text.isBlank c = false)
    : Text.trimStart (gap.chars ++ text) = text :=
  Text.dropWhile_append_of_head gap.isBlank start

theorem toNat_lt_of_isNameChar {c : Char} (is : isNameChar c = true) : c.toNat < 128 := by
  simp only [isNameChar, Bool.or_eq_true, Bool.and_eq_true, beq_iff_eq, decide_eq_true_eq,
    Syntax.isDigit_iff] at is
  rcases is with ((letter | digit) | rfl) | rfl
  · have high : c.toNat ≤ 122 := letter.2
    omega
  · omega
  all_goals decide

/-- The characters of names are plain, and those of names that are understood are letters and
hyphens. -/
theorem isPlain_of_isNameChar {c : Char} (is : isNameChar c = true)
    : IsPlain c
      ∧ c ≠ ':'
      ∧ isFeatureChar c = (c == '-' || ('a' ≤ c && c ≤ 'z')) :=
  Text.forall_ascii
    (P := fun c =>
      isNameChar c = true →
      IsPlain c ∧ c ≠ ':' ∧ isFeatureChar c = (c == '-' || ('a' ≤ c && c ≤ 'z')))
    (by decide) (toNat_lt_of_isNameChar is) is

theorem Value.isQuiet_of_mem {value : Value} {c : Char} (member : c ∈ value.text) : IsQuiet c := by
  rcases List.mem_append.mp member with front | inAfter
  · rcases List.mem_append.mp front with inBefore | inLength
    · exact value.before.isQuiet_of_mem inBefore
    · exact (isPlain_of_isLengthChar (Length.isLengthChar_of_mem inLength)).isQuiet
  · exact value.after.isQuiet_of_mem inAfter

theorem Atom.isQuiet_of_mem {atom : Atom} {c : Char} (member : c ∈ atom.inside) : IsQuiet c := by
  simp only [inside, List.mem_append] at member
  rcases member with inBefore | inName | inAfter | inEnding
  · exact atom.before.isQuiet_of_mem inBefore
  · exact (isPlain_of_isNameChar (atom.named.2 c inName)).1.isQuiet
  · exact atom.after.isQuiet_of_mem inAfter
  · cases valued : atom.value with
    | none =>
      rw [valued] at inEnding
      cases inEnding
    | some value =>
      rw [valued] at inEnding
      rcases List.mem_cons.mp inEnding with rfl | inValue
      · decide
      · exact value.isQuiet_of_mem inValue

theorem Condition.fits (condition : Condition) : Fits condition.text := by
  induction condition with
  | atom own => exact (fits_of_isQuiet fun _ => own.isQuiet_of_mem).bracketed
  | group before inside after ih =>
    exact (before.fits.append (ih.append after.fits)).bracketed
  | not space inside ih =>
    have word : Fits "not".toList := fits_of_all (by decide)
    exact word.append (space.fits.append ih)
  | joined joiner left before after right ihLeft ihRight =>
    have word : Fits joiner.text := by cases joiner <;> exact fits_of_all (by decide)
    exact ihLeft.append (before.fits.append (word.append (after.fits.append ihRight)))

theorem Query.fits (query : Query) : Fits query.text := by
  cases query with
  | typed only type tail =>
    have mark : Fits ((only.map fun space => "only".toList ++ space.chars).getD []) := by
      cases only with
      | none => exact fits_of_isQuiet nofun
      | some space =>
        have word : Fits "only".toList := fits_of_all (by decide)
        exact word.append space.fits
    have word : Fits type.text := by cases type <;> exact fits_of_all (by decide)
    have behind : Fits ((tail.map (·.text)).getD []) := by
      cases tail with
      | none => exact fits_of_isQuiet nofun
      | some tail =>
        have joiner : Fits "and".toList := fits_of_all (by decide)
        exact tail.before.fits.append
          (joiner.append (tail.after.fits.append tail.condition.fits))
    exact mark.append (word.append behind)
  | untyped condition => exact condition.fits

theorem Entry.fits (entry : Entry) : Fits entry.text :=
  (entry.before.fits.append entry.query.fits).append entry.after.fits

--------------------------------------------------------------------------------
-- Taking features out
--------------------------------------------------------------------------------

/-- Puts more text and more features in front of what was taken. -/
def pass (head : List Char) (features : List Feature) (taken : List Char × List Feature)
    : List Char × List Feature :=
  (head ++ taken.1, features ++ taken.2)

theorem pass_pass (head behind : List Char) (features others : List Feature)
    (taken : List Char × List Feature)
    : pass head features (pass behind others taken)
      = pass (head ++ behind) (features ++ others) taken := by
  simp [pass]

theorem takeFeatures_cons {c : Char} (other : c ≠ '(') (rest : List Char)
    : takeFeatures (c :: rest) = pass [c] [] (takeFeatures rest) := by
  rw [takeFeatures]
  simp [other, pass]

/-- What holds no opening bracket stays where it is. -/
theorem takeFeatures_append {front : List Char} (noBracket : '(' ∉ front) (rest : List Char)
    : takeFeatures (front ++ rest) = pass front [] (takeFeatures rest) := by
  induction front with
  | nil => rfl
  | cons c others ih =>
    rw [List.mem_cons, not_or] at noBracket
    rw [List.cons_append, takeFeatures_cons (Ne.symm noBracket.1), ih noBracket.2, pass_pass]
    rfl

theorem takeFeatures_of_none {rest : List Char} (other : readFeature rest = none)
    : takeFeatures ('(' :: rest) = pass ['('] [] (takeFeatures rest) := by
  rw [takeFeatures]
  split
  · split
    · rename_i read
      cases other.symm.trans read
    · rfl
  · rfl

theorem takeFeatures_of_some {rest after : List Char} {feature : Feature}
    (read : readFeature rest = some (feature, after))
    : takeFeatures ('(' :: rest) = pass [] [feature] (takeFeatures after) := by
  rw [takeFeatures]
  split
  · split
    · rename_i same
      cases read.symm.trans same
      rfl
    · rename_i none
      cases read.symm.trans none
  · rename_i noBracket
    exact absurd rfl noBracket

--------------------------------------------------------------------------------
-- Reading features
--------------------------------------------------------------------------------

/-- Whitespace of no script can stand in the name of a feature. -/
theorem isFeatureChar_of_isBlank {c : Char} (blank : Text.isBlank c = true)
    : isFeatureChar c = false := by
  have codes
      : ∀ code ∈ [0x09, 0x0A, 0x0B, 0x0C, 0x0D, 0x1C, 0x1D, 0x1E, 0x1F, 0x20, 0x85, 0xA0, 0x1680,
          0x2000, 0x2001, 0x2002, 0x2003, 0x2004, 0x2005, 0x2006, 0x2007, 0x2008, 0x2009, 0x200A,
          0x2028, 0x2029, 0x202F, 0x205F, 0x3000],
          isFeatureChar (Char.ofNat code) = false := by
    decide +kernel
  rw [← Char.ofNat_toNat c]
  apply codes
  simp only [Text.isBlank, Bool.or_eq_true, Bool.and_eq_true, beq_iff_eq,
    decide_eq_true_eq] at blank
  simp only [List.mem_cons, List.not_mem_nil, or_false]
  omega

section Features

variable {before name after : List Char}

/-- The name of a feature and what follows it up to its mark, as they are found. -/
theorem found_name (blankBefore : ∀ c ∈ before, Text.isBlank c = true)
    (named : name ≠ []) (letters : ∀ c ∈ name, isFeatureChar c = true)
    (blankAfter : ∀ c ∈ after, Text.isBlank c = true) {mark : Char}
    (isMark : mark = ':' ∨ mark = ')') (rest : List Char)
    : let text := name ++ (after ++ mark :: rest)
      Text.trimStart (before ++ text) = text
      ∧ text.takeWhile isFeatureChar = name
      ∧ Text.trimStart (text.dropWhile isFeatureChar) = mark :: rest := by
  have markStops : isFeatureChar mark = false ∧ Text.isBlank mark = false := by
    rcases isMark with rfl | rfl <;> decide
  have start : ∀ c ∈ (name ++ (after ++ mark :: rest)).head?, Text.isBlank c = false := by
    obtain ⟨first, others, rfl⟩ := List.exists_cons_of_ne_nil named
    rintro _ ⟨⟩
    refine Bool.eq_false_iff.mpr fun blank => ?_
    have letter := letters first List.mem_cons_self
    rw [isFeatureChar_of_isBlank blank] at letter
    cases letter
  have stop : ∀ c ∈ (after ++ mark :: rest).head?, isFeatureChar c = false := by
    intro c first
    cases after with
    | nil =>
      cases first
      exact markStops.1
    | cons blank others =>
      cases first
      exact isFeatureChar_of_isBlank (blankAfter c List.mem_cons_self)
  refine ⟨Text.dropWhile_append_of_head blankBefore start,
    Text.takeWhile_append_of_head letters stop, ?_⟩
  rw [Text.dropWhile_append_of_head letters stop]
  refine Text.dropWhile_append_of_head blankAfter ?_
  rintro _ ⟨⟩
  exact markStops.2

/-- A name in brackets is read as a feature. -/
theorem readFeature_name (blankBefore : ∀ c ∈ before, Text.isBlank c = true)
    (named : name ≠ []) (letters : ∀ c ∈ name, isFeatureChar c = true)
    (blankAfter : ∀ c ∈ after, Text.isBlank c = true) (rest : List Char)
    : readFeature (before ++ (name ++ (after ++ ')' :: rest))) = some (⟨name, none⟩, rest) := by
  obtain ⟨start, own, mark⟩ := found_name blankBefore named letters blankAfter (.inr rfl) rest
  have filled : name.isEmpty = false := by simpa using named
  rw [readFeature]
  simp only [start, own, mark, filled]
  rfl

/-- A name and a value in brackets are read as a feature. -/
theorem readFeature_value (blankBefore : ∀ c ∈ before, Text.isBlank c = true)
    (named : name ≠ []) (letters : ∀ c ∈ name, isFeatureChar c = true)
    (blankAfter : ∀ c ∈ after, Text.isBlank c = true) {value : List Char}
    (visible : Text.trim value ≠ []) (free : ')' ∉ value) (rest : List Char)
    : readFeature (before ++ (name ++ (after ++ ':' :: (value ++ ')' :: rest))))
      = some (⟨name, some (Text.trim value)⟩, rest) := by
  obtain ⟨start, own, mark⟩ :=
    found_name blankBefore named letters blankAfter (.inl rfl) (value ++ ')' :: rest)
  have filled : name.isEmpty = false := by simpa using named
  have noEnd : ∀ c ∈ value, (c != ')') = true :=
    fun c member => bne_iff_ne.mpr fun same => free (same ▸ member)
  have close : ∀ c ∈ (')' :: rest).head?, (c != ')') = false := by
    rintro _ ⟨⟩
    rfl
  have shown : (Text.trim value).isEmpty = false := by simpa using visible
  have some : value.isEmpty = false := by
    rw [List.isEmpty_eq_false_iff]
    rintro rfl
    exact visible rfl
  rw [readFeature]
  simp only [start, own, mark, filled, Text.takeWhile_append_of_head noEnd close,
    Text.dropWhile_append_of_head noEnd close, some, featureValue, shown]
  rfl

end Features
namespace Atom

variable {atom : Atom}

theorem isFeatureChar_of_isUnderstood (understood : atom.isUnderstood = true)
    : ∀ c ∈ atom.name, isFeatureChar c = true := by
  intro c member
  rw [(isPlain_of_isNameChar (atom.named.2 c member)).2.2]
  exact List.all_eq_true.mp understood c member

/-- A name that is not understood goes on with something else than the name of a feature. -/
theorem exists_rest_of_isUnderstood (other : atom.isUnderstood = false)
    : ∃ c rest,
        atom.name.dropWhile isFeatureChar = c :: rest ∧ isNameChar c = true := by
  cases left : atom.name.dropWhile isFeatureChar with
  | nil =>
    have all := List.dropWhile_eq_nil_iff.mp left
    have understood : atom.isUnderstood = true := by
      refine List.all_eq_true.mpr fun c member => ?_
      rw [← (isPlain_of_isNameChar (atom.named.2 c member)).2.2]
      exact all c member
    rw [understood] at other
    cases other
  | cons c rest =>
    refine ⟨c, rest, rfl, atom.named.2 c ?_⟩
    have sub := (List.dropWhile_sublist isFeatureChar (l := atom.name)).subset
    exact sub (by rw [left]; exact List.mem_cons_self)

theorem isBlank_of_head?_name {c : Char} {behind : List Char}
    (first : c ∈ (atom.name ++ behind).head?)
    : Text.isBlank c = false := by
  obtain ⟨named, chars⟩ := atom.named
  obtain ⟨initial, others, name⟩ := List.exists_cons_of_ne_nil named
  have plain := (isPlain_of_isNameChar (chars initial (by rw [name]; exact List.mem_cons_self))).1
  rw [name] at first
  cases first
  exact plain.inside

/-- A feature that is understood is read with its value. -/
theorem readFeature_inside (understood : atom.isUnderstood = true) (rest : List Char)
    : readFeature (atom.inside ++ ')' :: rest) = some (atom.feature, rest) := by
  have letters := isFeatureChar_of_isUnderstood understood
  have before := atom.before.isBlank
  have after := atom.after.isBlank
  cases valued : atom.value with
  | none =>
    have text
        : atom.inside ++ ')' :: rest
          = atom.before.chars ++ (atom.name ++ (atom.after.chars ++ ')' :: rest)) := by
      simp [inside, valued]
    rw [text, readFeature_name before atom.named.1 letters after, feature, valued]
    rfl
  | some value =>
    have text
        : atom.inside ++ ')' :: rest
          = atom.before.chars
            ++ (atom.name ++ (atom.after.chars ++ ':' :: (value.text ++ ')' :: rest))) := by
      simp [inside, valued]
    have trimmed : Text.trim value.text = value.length.text :=
      Text.trim_between value.before.isBlank value.after.isBlank value.length.trim_text
    have free : ')' ∉ value.text := fun member => (value.isQuiet_of_mem member).free.2.2 rfl
    rw [text, readFeature_value before atom.named.1 letters after
      (trimmed ▸ value.length.text_ne_nil) free, trimmed, feature, valued]
    rfl

/-- A name that is not understood is not read as a feature. -/
theorem readFeature_of_not_isUnderstood (other : atom.isUnderstood = false) (rest : List Char)
    : readFeature (atom.inside ++ rest) = none := by
  obtain ⟨c, others, left, isName⟩ := exists_rest_of_isUnderstood other
  obtain ⟨plain, noColon, -⟩ := isPlain_of_isNameChar isName
  generalize within
      : atom.after.chars ++ ((atom.value.map fun value => ':' :: value.text).getD [] ++ rest)
        = behind
  have text : atom.inside ++ rest = atom.before.chars ++ (atom.name ++ behind) := by
    simp [inside, ← within]
  have start : Text.trimStart (atom.before.chars ++ (atom.name ++ behind)) = atom.name ++ behind :=
    atom.before.trimStart_append fun _ => isBlank_of_head?_name
  have stopped : (atom.name ++ behind).dropWhile isFeatureChar = c :: (others ++ behind) := by
    rw [List.dropWhile_append, left]
    rfl
  have kept : Text.trimStart (c :: (others ++ behind)) = c :: (others ++ behind) := by
    refine Text.dropWhile_of_head ?_
    rintro _ ⟨⟩
    exact plain.inside
  rw [text, readFeature]
  simp only [start, stopped, kept]
  split
  · rfl
  · split
    · rename_i closed
      exact absurd (List.cons.inj closed).1 plain.free.2.2
    · rename_i colon
      exact absurd (List.cons.inj colon).1 noColon
    · rfl

end Atom

namespace Condition

/-- A condition starts with a bracket or with the word that negates it. -/
theorem exists_text (condition : Condition)
    : ∃ first rest, condition.text = first :: rest ∧ (first = '(' ∨ first = 'n') := by
  induction condition with
  | atom own => exact ⟨_, _, rfl, .inl rfl⟩
  | group before inside after => exact ⟨_, _, rfl, .inl rfl⟩
  | not space inside => exact ⟨_, _, rfl, .inr rfl⟩
  | joined joiner left before after right ihLeft =>
    obtain ⟨first, rest, start, is⟩ := ihLeft
    exact ⟨first, rest ++ (before.chars ++ (joiner.text ++ (after.chars ++ right.text))),
      by rw [text, start, List.cons_append], is⟩

theorem readFeature_bracket (gap : Gap) (rest : List Char)
    : readFeature (gap.chars ++ '(' :: rest) = none := by
  have start : Text.trimStart (gap.chars ++ '(' :: rest) = '(' :: rest := by
    refine gap.trimStart_append ?_
    rintro _ ⟨⟩
    decide
  rw [readFeature]
  simp only [start]
  rfl

/-- The word "not" is no feature where something else than a mark follows. -/
theorem readFeature_not (gap : Gap) (space : Break) {first : Char} (is : first = '(' ∨ first = 'n')
    (rest : List Char)
    : readFeature (gap.chars ++ ("not".toList ++ (space.chars ++ first :: rest))) = none := by
  have blank : Text.isBlank first = false := by rcases is with rfl | rfl <;> decide
  have start
      : Text.trimStart (gap.chars ++ ("not".toList ++ (space.chars ++ first :: rest)))
        = "not".toList ++ (space.chars ++ first :: rest) := by
    refine gap.trimStart_append ?_
    rintro _ ⟨⟩
    decide
  have own : ∀ c ∈ "not".toList, isFeatureChar c = true := List.all_eq_true.mp (by decide)
  have stop : ∀ c ∈ (space.chars ++ first :: rest).head?, isFeatureChar c = false := by
    obtain ⟨blank, others, blanks⟩ := List.exists_cons_of_ne_nil space.some
    have isSpace := space.spaces blank (by rw [blanks]; exact List.mem_cons_self)
    rw [blanks]
    rintro _ ⟨⟩
    exact (isBetween_of_isSpace isSpace).noName
  have kept : Text.trimStart (space.chars ++ first :: rest) = first :: rest := by
    refine space.trimStart_append ?_
    rintro _ ⟨⟩
    exact blank
  rw [readFeature]
  simp only [start, Text.takeWhile_append_of_head own stop, Text.dropWhile_append_of_head own stop,
    kept]
  rcases is with rfl | rfl <;> rfl

/-- No condition is taken for the inside of a feature. -/
theorem readFeature_text (condition : Condition) (gap : Gap) (rest : List Char)
    : readFeature (gap.chars ++ (condition.text ++ rest)) = none := by
  induction condition generalizing rest with
  | atom own => exact readFeature_bracket gap _
  | group before inside after => exact readFeature_bracket gap _
  | not space inside =>
    obtain ⟨first, others, start, is⟩ := inside.exists_text
    rw [text, List.append_assoc, List.append_assoc, start]
    exact readFeature_not gap space is _
  | joined joiner left before after right ihLeft =>
    rw [text, List.append_assoc]
    exact ihLeft _

/-- What is left of the text of a condition without the features that are understood. -/
def head : Condition → List Char
  | atom own => if own.isUnderstood then [] else bracketed own.inside
  | group before inside after => bracketed (before.chars ++ (inside.head ++ after.chars))
  | not space inside => "not".toList ++ (space.chars ++ inside.head)
  | joined joiner left before after right =>
    left.head ++ (before.chars ++ (joiner.text ++ (after.chars ++ right.head)))

/-- The features of a condition are taken out of its text wherever they stand.
Witness: induction on the condition, each part with all of the text behind it.
-/
theorem takeFeatures_text (condition : Condition) (rest : List Char)
    : takeFeatures (condition.text ++ rest)
      = pass condition.head condition.features (takeFeatures rest) := by
  have closed (rest : List Char) : takeFeatures (')' :: rest) = pass [')'] [] (takeFeatures rest) :=
    takeFeatures_cons (by decide) rest
  induction condition generalizing rest with
  | atom own =>
    have parts : (atom own).text ++ rest = '(' :: (own.inside ++ ')' :: rest) := by
      simp [text, bracketed]
    rw [parts]
    cases understood : own.isUnderstood with
    | true =>
      rw [takeFeatures_of_some (own.readFeature_inside understood rest)]
      simp [head, features, understood]
    | false =>
      rw [takeFeatures_of_none (own.readFeature_of_not_isUnderstood understood _),
        takeFeatures_append (noBracket_of_isQuiet fun _ => own.isQuiet_of_mem), closed]
      simp [pass_pass, head, features, understood, bracketed]
  | group before inside after ih =>
    have read := readFeature_text inside before (after.chars ++ ')' :: rest)
    have parts
        : (group before inside after).text ++ rest
          = '(' :: (before.chars ++ (inside.text ++ (after.chars ++ ')' :: rest))) := by
      simp [text, bracketed]
    rw [parts, takeFeatures_of_none read, takeFeatures_append (before.noBracket), ih,
      takeFeatures_append (after.noBracket), closed]
    simp [pass_pass, head, features, bracketed]
  | not space inside ih =>
    rw [text, List.append_assoc, List.append_assoc, takeFeatures_append (by decide),
      takeFeatures_append (space.noBracket), ih]
    simp [pass_pass, head, features]
  | joined joiner left before after right ihLeft ihRight =>
    have word : '(' ∉ joiner.text := by cases joiner <;> decide
    simp only [text, List.append_assoc]
    rw [ihLeft, takeFeatures_append (before.noBracket), takeFeatures_append word,
      takeFeatures_append (after.noBracket), ihRight]
    simp [pass_pass, head, features]

end Condition

end CriticalCss.Media.Written
