import CriticalCss.Proofs.Text.Folding
import CriticalCss.Selector.Query

/-! Where a pseudo is found in a text that is put together from parts. A pseudo is its colons, a
name and the end of the name, so it is found inside a part, or its first colon is the last character
of one part and the rest of it starts the next. Whatever is found starts with a colon.
-/

namespace CriticalCss.Selector

--------------------------------------------------------------------------------
-- The end of a name
--------------------------------------------------------------------------------

/-- A character that no name goes on with. -/
def isStop (c : Char) : Bool :=
  !Text.isWord c && c != '-'

/-- A name in front of the text ends there. -/
def Stops (text : List Char) : Prop :=
  ∀ c ∈ text.head?, isStop c = true

theorem stops_nil : Stops [] :=
  nofun

/-- A character of the names that are looked for. -/
def isListed (w : Char) : Bool :=
  w.isLower || w == '-'

/-- What is taken for a letter of the first 128 is one of them, or it is alphanumeric; so nothing that
stops a name is. -/
theorem le_caseKey_of_isStop {c : Char} (stop : isStop c = true) (beyond : 128 ≤ c.toNat)
    : 128 ≤ (Text.caseKey c).toNat := by
  refine Nat.le_of_not_lt fun low => ?_
  have letter := Text.isAlphanumeric_of_caseKey beyond low
  simp [isStop, Text.isWord, letter] at stop

theorem isAlpha_of_isLower {w : Char} (small : w.isLower = true) : w.isAlpha = true := by
  have letters : w.isAlpha = (w.isUpper || w.isLower) := rfl
  rw [letters, small, Bool.or_true]

theorem toNat_lt_of_isListed {w : Char} (listed : isListed w = true) : w.toNat < 128 := by
  simp only [isListed, Bool.or_eq_true, beq_iff_eq] at listed
  rcases listed with small | rfl
  · exact Text.toNat_lt_of_isAlpha (isAlpha_of_isLower small)
  · decide

theorem caseKey_of_isListed {w : Char} (listed : isListed w = true) : Text.caseKey w = w := by
  have small : ∀ code < 128, isListed (Char.ofNat code) = true
      → (Char.ofNat code).toLower = Char.ofNat code := by decide
  have ascii : w.toNat < 128 := toNat_lt_of_isListed listed
  refine Text.caseKey_of_toLower ascii ?_
  exact Text.forall_ascii (P := fun w => isListed w = true → w.toLower = w) small ascii listed

theorem sameIgnoringCase_of_isStop {w c : Char} (listed : isListed w = true)
    (stop : isStop c = true)
    : Text.sameIgnoringCase w c = false := by
  rw [Text.sameIgnoringCase, caseKey_of_isListed listed, beq_eq_false_iff_ne]
  intro same
  by_cases ascii : c.toNat < 128
  · have apart : ∀ code < 128, isStop (Char.ofNat code) = true
        → isListed (Text.caseKey (Char.ofNat code)) = false := by decide
    have other : isListed (Text.caseKey c) = false :=
      Text.forall_ascii (P := fun c => isStop c = true → isListed (Text.caseKey c) = false)
        apart ascii stop
    rw [← same, listed] at other
    cases other
  · have high := le_caseKey_of_isStop stop (Nat.le_of_not_lt ascii)
    have low := toNat_lt_of_isListed listed
    rw [← same] at high
    omega

/-- A blank stops a name. -/
theorem isStop_of_isBlank {c : Char} (blank : Text.isBlank c = true) : isStop c = true := by
  by_cases ascii : c.toNat < 128
  · exact Text.forall_ascii (P := fun c => Text.isBlank c = true → isStop c = true) (by decide)
      ascii blank
  · have ranges
        : ∀ range ∈ Text.alphanumericRanges,
            range.2 < 0x85
            ∨ (0x85 < range.1 ∧ range.2 < 0xA0)
            ∨ (0xA0 < range.1 ∧ range.2 < 0x1680)
            ∨ (0x1680 < range.1 ∧ range.2 < 0x2000)
            ∨ (0x205F < range.1 ∧ range.2 < 0x3000)
            ∨ 0x3000 < range.1 := by
      decide +kernel
    have outside : Text.inRanges Text.alphanumericRanges c.toNat = false := by
      refine List.any_eq_false.mpr fun range member => ?_
      have place := ranges range member
      simp only [Text.isBlank, Bool.or_eq_true, Bool.and_eq_true, beq_iff_eq, decide_eq_true_eq]
        at blank
      simp only [Bool.and_eq_true, decide_eq_true_eq]
      omega
    have beyond : ∀ mark : Char, mark.toNat < 128 → c ≠ mark := by
      rintro mark low rfl
      exact ascii low
    simp [isStop, Text.isWord, Text.isAlphanumeric, ascii, outside, beyond '_' (by decide),
      beyond '-' (by decide)]

--------------------------------------------------------------------------------
-- Names
--------------------------------------------------------------------------------

/-- Names of small letters and hyphens. -/
def AreNames (names : List String) : Prop :=
  ∀ name ∈ names, name.toList ≠ [] ∧ ∀ w ∈ name.toList, isListed w = true

instance : DecidablePred AreNames :=
  fun names => decidable_of_iff
    (names.all fun name => name.toList ≠ [] && name.toList.all isListed) (by simp [AreNames])

theorem areNames_stripped : AreNames strippedPseudos := by decide

theorem areNames_interactive : AreNames interactivePseudoClasses := by decide

section Names

variable {names : List String} {rest : List Char}

/-- A word is found in front of what stops it only if it is there without it. -/
theorem dropWord_append {word : List Char} (listed : ∀ w ∈ word, isListed w = true)
    (stops : Stops rest) (text : List Char)
    : Text.dropWordIgnoringCase word (text ++ rest)
      = (Text.dropWordIgnoringCase word text).map (· ++ rest) := by
  induction word generalizing text with
  | nil => rfl
  | cons w word ih =>
    rw [List.forall_mem_cons] at listed
    cases text with
    | nil =>
      cases rest with
      | nil => rfl
      | cons c rest =>
        have other := sameIgnoringCase_of_isStop listed.1 (stops c rfl)
        simp [Text.dropWordIgnoringCase, other]
    | cons c text =>
      rw [List.cons_append, Text.dropWordIgnoringCase, Text.dropWordIgnoringCase]
      split
      · exact ih listed.2 text
      · rfl

theorem stops_iff : Stops rest ↔ nameEnds rest = true := by
  cases rest with
  | nil => simp [Stops, nameEnds]
  | cons c rest => simp [Stops, nameEnds, isStop]

theorem nameEnds_append (stops : Stops rest) (text : List Char)
    : nameEnds (text ++ rest) = nameEnds text := by
  cases text with
  | nil => exact stops_iff.mp stops
  | cons c text => rfl

/-- What follows the name that a text starts with. -/
def afterName? (names : List String) (text : List Char) : Option (List Char) :=
  names.findSome? fun name => (Text.dropWordIgnoringCase name.toList text).filter nameEnds

theorem startsWithName_eq (names : List String) (text : List Char)
    : startsWithName names text = (afterName? names text).isSome := by
  unfold afterName?
  induction names with
  | nil => rfl
  | cons name names ih =>
    rw [startsWithName, List.any_cons, ← startsWithName, ih, List.findSome?_cons]
    cases Text.dropWordIgnoringCase name.toList text with
    | none => rfl
    | some after => cases ends : nameEnds after <;> simp [Option.filter, ends]

theorem afterName?_append (areNames : AreNames names) (stops : Stops rest) (text : List Char)
    : afterName? names (text ++ rest) = (afterName? names text).map (· ++ rest) := by
  unfold afterName?
  induction names with
  | nil => rfl
  | cons name names ih =>
    obtain ⟨⟨-, listed⟩, others⟩ := List.forall_mem_cons.mp areNames
    rw [List.findSome?_cons, List.findSome?_cons, dropWord_append listed stops, ih others]
    cases Text.dropWordIgnoringCase name.toList text with
    | none => rfl
    | some after =>
      simp only [Option.map_some, Option.filter, nameEnds_append stops]
      cases nameEnds after <;> rfl

theorem startsWithName_append (areNames : AreNames names) (stops : Stops rest) (text : List Char)
    : startsWithName names (text ++ rest) = startsWithName names text := by
  rw [startsWithName_eq, startsWithName_eq, afterName?_append areNames stops, Option.isSome_map]

theorem dropWord_suffix {word text after : List Char}
    (found : Text.dropWordIgnoringCase word text = some after)
    : after <:+ text := by
  induction word generalizing text with
  | nil =>
    cases found
    exact List.suffix_refl _
  | cons w word ih =>
    cases text with
    | nil => cases found
    | cons c text =>
      rw [Text.dropWordIgnoringCase] at found
      split at found
      · exact (ih found).trans (List.suffix_cons c text)
      · cases found

theorem afterName?_suffix {text after : List Char} (found : afterName? names text = some after)
    : after <:+ text := by
  obtain ⟨name, -, some⟩ := List.exists_of_findSome?_eq_some found
  obtain ⟨dropped, -⟩ := Option.filter_eq_some_iff.mp some
  exact dropWord_suffix dropped

/-- What starts with a name does not start with what stops one. -/
theorem exists_cons_of_startsWithName (areNames : AreNames names) {text : List Char}
    (starts : startsWithName names text = true)
    : ∃ c rest, text = c :: rest ∧ isStop c = false := by
  obtain ⟨name, member, found⟩ := List.any_eq_true.mp starts
  obtain ⟨filled, listed⟩ := areNames name member
  obtain ⟨w, word, isWord⟩ := List.exists_cons_of_ne_nil filled
  rw [isWord] at found listed
  cases text with
  | nil => cases found
  | cons c text =>
    refine ⟨c, text, rfl, Bool.eq_false_iff.mpr fun stop => ?_⟩
    have other := sameIgnoringCase_of_isStop (listed w List.mem_cons_self) stop
    simp [Text.dropWordIgnoringCase, other] at found

end Names

--------------------------------------------------------------------------------
-- Colons
--------------------------------------------------------------------------------

theorem afterColons_cons {body : List Char} (apart : body.head? ≠ some ':')
    : afterColons (':' :: body) = some body := by
  unfold afterColons
  split
  · rename_i same
    cases same
    exact absurd rfl apart
  · rename_i same
    cases same
    rfl
  · rename_i other
    exact absurd rfl (other body)

theorem afterColons_of_ne {c : Char} (other : c ≠ ':') (rest : List Char)
    : afterColons (c :: rest) = none := by
  unfold afterColons
  split
  · rename_i same
    cases same
    exact absurd rfl other
  · rename_i same
    cases same
    exact absurd rfl other
  · rfl

theorem eq_of_afterColons {text body : List Char} (found : afterColons text = some body)
    : text = ':' :: body ∨ text = ':' :: ':' :: body := by
  unfold afterColons at found
  split at found
  · cases found
    exact .inr rfl
  · cases found
    exact .inl rfl
  · cases found

/-- Two characters decide how many colons there are. -/
theorem afterColons_append (c d : Char) (text rest : List Char)
    : afterColons (c :: d :: text ++ rest) = (afterColons (c :: d :: text)).map (· ++ rest) := by
  by_cases colon : c = ':'
  · subst colon
    by_cases second : d = ':'
    · subst second
      rfl
    · rw [afterColons_cons (by simpa using second), List.cons_append,
        afterColons_cons (by simpa using second)]
      rfl
  · rw [afterColons_of_ne colon, List.cons_append, afterColons_of_ne colon]
    rfl

--------------------------------------------------------------------------------
-- What is found
--------------------------------------------------------------------------------

/-- What a search finds is colons with a name of some kind behind them, which can be told from the
text up to the first character that stops it. -/
structure IsSearchFor (begins : List Char → Prop) (after? : List Char → Option (List Char))
    : Prop where
  found : ∀ text, (after? text).isSome = true ↔ ∃ body, afterColons text = some body ∧ begins body
  unstopped : ∀ body, begins body → ∃ c rest, body = c :: rest ∧ isStop c = false
  upToStop : ∀ body rest, Stops rest → (begins (body ++ rest) ↔ begins body)

namespace IsSearchFor

variable {begins : List Char → Prop} {after? : List Char → Option (List Char)}
  (search : IsSearchFor begins after?)

include search

theorem head_of_begins {body : List Char} (starts : begins body) : body.head? ≠ some ':' := by
  obtain ⟨c, rest, rfl, stop⟩ := search.unstopped body starts
  intro colon
  cases colon
  cases stop

theorem isSome_cons_iff {body : List Char} (apart : body.head? ≠ some ':')
    : (after? (':' :: body)).isSome = true ↔ begins body := by
  rw [search.found, afterColons_cons apart]
  simp

/-- What is found in a text is found in front of what stops it. -/
theorem isSome_append {text rest : List Char} (stops : Stops rest)
    (found : (after? text).isSome = true)
    : (after? (text ++ rest)).isSome = true := by
  obtain ⟨body, isBody, starts⟩ := (search.found text).mp found
  have longer := (search.upToStop body rest stops).mpr starts
  rcases eq_of_afterColons isBody with rfl | rfl
  · exact (search.isSome_cons_iff (search.head_of_begins longer)).mpr longer
  · exact (search.found _).mpr ⟨body ++ rest, rfl, longer⟩

/-- What is found in front of what stops it is found without that, unless one colon is the whole
text and the rest starts with another. -/
theorem isSome_of_append {c : Char} {text rest : List Char} (stops : Stops rest)
    (found : (after? (c :: text ++ rest)).isSome = true)
    : (after? (c :: text)).isSome = true
      ∨ (c = ':' ∧ text = [] ∧ ∃ body, rest = ':' :: body ∧ begins body) := by
  obtain ⟨body, isBody, starts⟩ := (search.found _).mp found
  cases text with
  | nil =>
    refine .inr ?_
    rcases eq_of_afterColons isBody with whole | whole <;> cases whole
    · obtain ⟨d, others, rfl, stop⟩ := search.unstopped _ starts
      cases (stops d rfl).symm.trans stop
    · exact ⟨rfl, rfl, body, rfl, starts⟩
  | cons d text =>
    refine .inl ((search.found _).mpr ?_)
    rw [afterColons_append] at isBody
    obtain ⟨own, isOwn, rfl⟩ := Option.map_eq_some_iff.mp isBody
    exact ⟨own, isOwn, (search.upToStop own rest stops).mp starts⟩

theorem occursIn_append (front : List Char) {rest : List Char} (stops : Stops rest)
    : occursIn after? (front ++ rest) = (occursIn after? front || occursIn after? rest) := by
  induction front with
  | nil => rfl
  | cons c front ih =>
    have inFront (found : (after? (c :: front)).isSome = true)
        : (after? (c :: (front ++ rest))).isSome = true :=
      search.isSome_append stops found
    have either (found : (after? (c :: (front ++ rest))).isSome = true)
        : (after? (c :: front)).isSome = true ∨ occursIn after? rest = true := by
      refine (search.isSome_of_append stops found).imp_right ?_
      rintro ⟨-, -, body, rfl, starts⟩
      have first := (search.isSome_cons_iff (search.head_of_begins starts)).mpr starts
      rw [occursIn, first, Bool.true_or]
    rw [List.cons_append, occursIn, occursIn, ih, Bool.eq_iff_iff]
    simp only [Bool.or_eq_true]
    constructor
    · rintro (found | inside | later)
      · exact (either found).imp_left .inl
      · exact .inl (.inr inside)
      · exact .inr later
    · rintro ((found | inside) | later)
      · exact .inl (inFront found)
      · exact .inr (.inl inside)
      · exact .inr (.inr later)

/-- Nothing is found in a text without colons. -/
theorem isSome_cons_of_ne {c : Char} (other : c ≠ ':') (rest : List Char)
    : (after? (c :: rest)).isSome = false := by
  refine Bool.eq_false_iff.mpr fun found => ?_
  obtain ⟨body, isBody, -⟩ := (search.found _).mp found
  rw [afterColons_of_ne other] at isBody
  cases isBody

theorem occursIn_of_not_mem {front : List Char} (free : ':' ∉ front) (rest : List Char)
    : occursIn after? (front ++ rest) = occursIn after? rest := by
  induction front with
  | nil => rfl
  | cons c front ih =>
    rw [List.mem_cons, not_or] at free
    rw [List.cons_append, occursIn, search.isSome_cons_of_ne (Ne.symm free.1), ih free.2,
      Bool.false_or]

end IsSearchFor

/-- What follows the colons and the name that a text starts with. -/
def afterPseudo? (names : List String) (text : List Char) : Option (List Char) :=
  (afterColons text).bind (afterName? names)

theorem isSearchFor_names {names : List String} (areNames : AreNames names)
    : IsSearchFor (startsWithName names · = true) (afterPseudo? names) where
  found text := by
    rw [afterPseudo?]
    cases afterColons text <;> simp [startsWithName_eq]
  unstopped _ := exists_cons_of_startsWithName areNames
  upToStop body _ stops := by rw [startsWithName_append areNames stops body]

theorem isSearchFor_stripped
    : IsSearchFor (startsWithName strippedPseudos · = true) afterStripped? :=
  isSearchFor_names areNames_stripped

/-- A hyphen, the letters of a vendor, a hyphen and the start of a name. -/
def StartsVendor (body : List Char) : Prop :=
  ∃ (vendor : List Char) (c : Char) (rest : List Char),
    vendor ≠ []
    ∧ (∀ letter ∈ vendor, isLatinLetter letter = true)
    ∧ (isLatinLetter c = true ∨ c = '-')
    ∧ body = '-' :: (vendor ++ '-' :: c :: rest)

theorem isLatinLetter_hyphen : isLatinLetter '-' = false := by decide

theorem isLatinLetter_of_isStop {c : Char} (stop : isStop c = true) : isLatinLetter c = false := by
  by_cases ascii : c.toNat < 128
  · have each : ∀ code < 128, isStop (Char.ofNat code) = true
        → isLatinLetter (Char.ofNat code) = false := by decide
    exact Text.forall_ascii (P := fun c => isStop c = true → isLatinLetter c = false) each ascii stop
  · have high := le_caseKey_of_isStop stop (Nat.le_of_not_lt ascii)
    have last : ¬ Text.caseKey c ≤ 'z' := fun low =>
      absurd (Nat.lt_of_le_of_lt (UInt32.le_iff_toNat_le.mp low) (by decide)) (Nat.not_lt.mpr high)
    simp [isLatinLetter, last]

theorem startsVendor_append {body rest : List Char} (stops : Stops rest)
    : StartsVendor (body ++ rest) ↔ StartsVendor body := by
  constructor
  · rintro ⟨vendor, c, after, filled, letters, named, whole⟩
    -- All characters up to the first of the name go on with it, so none of them is in the rest.
    have goesOn : ∀ d ∈ '-' :: (vendor ++ ['-', c]), isStop d = false := by
      intro d member
      refine Bool.eq_false_iff.mpr fun stop => ?_
      have noLetter := isLatinLetter_of_isStop stop
      have noHyphen : d ≠ '-' := by
        rintro rfl
        cases stop
      simp only [List.mem_cons, List.mem_append, List.not_mem_nil, or_false] at member
      rcases member with hyphen | inVendor | hyphen | rfl
      · exact noHyphen hyphen
      · exact absurd (letters d inVendor) (by simp [noLetter])
      · exact noHyphen hyphen
      · exact named.elim (fun letter => by simp [noLetter] at letter) noHyphen
    have split : body ++ rest = '-' :: (vendor ++ ['-', c]) ++ after := by simp [whole]
    rcases List.append_eq_append_iff.mp split with ⟨more, longer, isRest⟩ | ⟨more, rfl, -⟩
    · cases more with
      | nil => exact ⟨vendor, c, [], filled, letters, named, by simpa using longer.symm⟩
      | cons d more =>
        have stop : isStop d = true := stops d (by rw [isRest]; rfl)
        exact absurd stop (by simp [goesOn d (longer ▸ by simp)])
    · exact ⟨vendor, c, more, filled, letters, named, by simp⟩
  · rintro ⟨vendor, c, after, filled, letters, named, rfl⟩
    exact ⟨vendor, c, after ++ rest, filled, letters, named, by simp⟩

theorem isSome_afterVendor?_iff (text : List Char)
    : (afterVendor? text).isSome = true
      ↔ ∃ body, afterColons text = some body ∧ StartsVendor body := by
  unfold afterVendor?
  constructor
  · intro found
    split at found
    · rename_i rest isBody
      refine ⟨'-' :: rest, isBody, ?_⟩
      split at found
      · rename_i vendor name letters behind
        dsimp only at found
        split at found
        · cases found
        · rename_i some
          obtain ⟨c, after, rfl, named⟩
              : ∃ c after, name = c :: after ∧ (isLatinLetter c || c == '-') = true := by
            cases name with
            | nil => simp at some
            | cons c after =>
              refine ⟨c, after, rfl, Bool.of_not_eq_false fun none => some ?_⟩
              rw [List.takeWhile_cons_of_neg (by simp [none])]
              rfl
          have all := List.takeWhile_append_dropWhile (p := isLatinLetter) (l := rest)
          rw [letters, behind] at all
          rw [Bool.or_eq_true, beq_iff_eq] at named
          refine ⟨_, c, after, List.cons_ne_nil _ _, fun letter member => ?_, named, by rw [← all]⟩
          exact List.mem_takeWhile_imp (letters ▸ member)
      · cases found
    · cases found
  · rintro ⟨body, isBody, vendor, c, after, filled, letters, named, rfl⟩
    have stop : ∀ d ∈ ('-' :: c :: after).head?, isLatinLetter d = false := by
      simp [isLatinLetter_hyphen]
    obtain ⟨first, others, rfl⟩ := List.exists_cons_of_ne_nil filled
    have named : (isLatinLetter c || c == '-') = true := by simpa using named
    rw [isBody]
    simp only [Text.takeWhile_append_of_head letters stop,
      Text.dropWhile_append_of_head letters stop]
    rw [if_neg (by simp only [List.takeWhile_cons, named]; simp)]
    rfl

theorem isSearchFor_vendor : IsSearchFor StartsVendor afterVendor? where
  found := isSome_afterVendor?_iff
  unstopped := by
    rintro _ ⟨vendor, c, after, -, -, -, rfl⟩
    exact ⟨'-', _, rfl, by decide⟩
  upToStop _ _ stops := startsVendor_append stops

end CriticalCss.Selector
