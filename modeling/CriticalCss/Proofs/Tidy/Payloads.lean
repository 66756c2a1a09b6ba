import CriticalCss.Proofs.Text.Folding
import CriticalCss.Proofs.Tidy.Removal

/-! Payloads of data URIs in a value. The search goes on behind each payload that it finds, so that
a URI can begin in the middle of what is passed over. None that keeps to itself is lost in that way:
it has the payload that was found, or lies in one that is longer, or begins behind it.
-/

namespace CriticalCss.Tidy

--------------------------------------------------------------------------------
-- Data URIs
--------------------------------------------------------------------------------

/-- A character that goes on with a payload: no closing bracket, no quote and no blank. -/
def IsBare (c : Char) : Prop :=
  c ≠ ')' ∧ c ≠ '\'' ∧ c ≠ '"' ∧ Text.isBlank c = false

instance (c : Char) : Decidable (IsBare c) :=
  inferInstanceAs (Decidable (_ ∧ _))

theorem endsPayload_iff {c : Char} : (!endsPayload c) = true ↔ IsBare c := by
  simp [endsPayload, IsBare, and_assoc]

/-- A data URI in base 64, and the rest of the text that it stands in. Its payload goes on as far as
it can. -/
structure DataUri where
  scheme : List Char
  isScheme : Text.IsCaseOf "data:".toList scheme
  media : List Char
  noComma : ',' ∉ media
  before : List Char
  blankBefore : ∀ c ∈ before, Text.isBlank c = true
  encoding : List Char
  isEncoding : Text.IsCaseOf "base64".toList encoding
  after : List Char
  blankAfter : ∀ c ∈ after, Text.isBlank c = true
  payload : List Char
  bare : ∀ c ∈ payload, IsBare c
  rest : List Char
  stops : ∀ c ∈ rest.head?, ¬ IsBare c

namespace DataUri

/-- What stands between the scheme and the comma. -/
def head (uri : DataUri) : List Char :=
  uri.media ++ ';' :: (uri.before ++ (uri.encoding ++ uri.after))

def text (uri : DataUri) : List Char :=
  uri.scheme ++ (uri.head ++ ',' :: (uri.payload ++ uri.rest))

/-- No bracket, quote or blank stands in front of the payload either. -/
structure IsTight (uri : DataUri) : Prop where
  media : ∀ c ∈ uri.media, IsBare c
  before : uri.before = []
  after : uri.after = []

end DataUri

--------------------------------------------------------------------------------
-- Words in any case
--------------------------------------------------------------------------------

/-- Letters of any case are no blanks and no marks. -/
theorem isBare_of_isCaseOf {word text : List Char} (spelled : Text.IsCaseOf word text)
    (inside : ∀ w ∈ word, IsBare w ∧ w ≠ ',')
    : ∀ c ∈ text, IsBare c ∧ c ≠ ',' := by
  induction spelled with
  | nil => simp
  | @cons w c word text first _ ih =>
    rw [List.forall_mem_cons] at inside ⊢
    refine ⟨?_, ih inside.2⟩
    rcases first with same | ⟨_, rfl⟩
    · obtain ⟨⟨bracket, single, double, blank⟩, comma⟩ := inside.1
      rw [← same] at bracket single double blank comma
      rw [Text.isBlank_toLower] at blank
      have kept {mark : Char} (noLetter : mark.isAlpha = false) (other : c.toLower ≠ mark)
          : c ≠ mark :=
        fun is => other ((Text.toLower_eq_iff noLetter).mpr is)
      exact ⟨⟨kept (by decide) bracket, kept (by decide) single, kept (by decide) double, blank⟩,
        kept (by decide) comma⟩
    · decide

theorem isBare_scheme : ∀ w ∈ "data:".toList, IsBare w ∧ w ≠ ',' :=
  List.forall_iff_forall_mem.mp (by decide)

theorem isBare_encoding : ∀ w ∈ "base64".toList, IsBare w ∧ w ≠ ',' :=
  List.forall_iff_forall_mem.mp (by decide)

theorem isFolded_scheme : ∀ w ∈ "data:".toList, Text.IsFolded w :=
  List.forall_iff_forall_mem.mp (by decide)

theorem isFolded_encoding : ∀ w ∈ "base64".toList, Text.IsFolded w :=
  List.forall_iff_forall_mem.mp (by decide)

theorem exists_cons_of_isCaseOf {w : Char} {word text : List Char}
    (spelled : Text.IsCaseOf (w :: word) text)
    : ∃ c rest, text = c :: rest := by
  cases spelled with
  | cons => exact ⟨_, _, rfl⟩

theorem isFolded_reverse : ∀ w ∈ "base64".toList.reverse, Text.IsFolded w :=
  fun w member => isFolded_encoding w (List.mem_reverse.mp member)

/-- What ends with base 64, in letters of any case and with blanks around it, names it. -/
theorem namesBase64_of_isCaseOf {before encoding after : List Char} (media : List Char)
    (blankBefore : ∀ c ∈ before, Text.isBlank c = true)
    (spelled : Text.IsCaseOf "base64".toList encoding)
    (blankAfter : ∀ c ∈ after, Text.isBlank c = true)
    : namesBase64 (media ++ ';' :: (before ++ (encoding ++ after))) = true := by
  have backwards
      : (media ++ ';' :: (before ++ (encoding ++ after))).reverse
        = after.reverse ++ (encoding.reverse ++ (before.reverse ++ ';' :: media.reverse)) := by
    simp
  have own : Text.IsCaseOf "base64".toList.reverse encoding.reverse :=
    Text.isCaseOf_reverse.mpr spelled
  obtain ⟨c, others, first⟩ := exists_cons_of_isCaseOf own
  have inside :=
    isBare_of_isCaseOf own fun w member => isBare_encoding w (List.mem_reverse.mp member)
  have trimmed
      : (media ++ ';' :: (before ++ (encoding ++ after))).reverse.dropWhile Text.isBlank
        = encoding.reverse ++ (before.reverse ++ ';' :: media.reverse) := by
    rw [backwards]
    refine Text.dropWhile_append_of_head (by simpa using blankAfter) ?_
    rw [first]
    rintro _ ⟨⟩
    exact (inside c (by rw [first]; exact List.mem_cons_self)).1.2.2.2
  have dropped
      : Text.dropWordIgnoringCase "base64".toList.reverse
          (encoding.reverse ++ (before.reverse ++ ';' :: media.reverse))
        = some (before.reverse ++ ';' :: media.reverse) :=
    (Text.dropWordIgnoringCase_iff isFolded_reverse).mpr ⟨_, rfl, own⟩
  have mark
      : (before.reverse ++ ';' :: media.reverse).dropWhile Text.isBlank
        = ';' :: media.reverse := by
    refine Text.dropWhile_append_of_head (by simpa using blankBefore) ?_
    rintro _ ⟨⟩
    decide
  unfold namesBase64
  simp only [trimmed, dropped, mark, List.head?_cons, decide_true]

/-- Nothing else names base 64. -/
theorem exists_of_namesBase64 {head : List Char} (named : namesBase64 head = true)
    : ∃ media before encoding after : List Char,
        head = media ++ ';' :: (before ++ (encoding ++ after))
        ∧ (∀ c ∈ before, Text.isBlank c = true)
        ∧ Text.IsCaseOf "base64".toList encoding
        ∧ ∀ c ∈ after, Text.isBlank c = true := by
  unfold namesBase64 at named
  dsimp only at named
  split at named
  · rename_i behind found
    obtain ⟨own, backwards, spelled⟩ := (Text.dropWordIgnoringCase_iff isFolded_reverse).mp found
    obtain ⟨mark, first⟩ := List.head?_eq_some_iff.mp (of_decide_eq_true named)
    have whole := List.takeWhile_append_dropWhile (p := Text.isBlank) (l := head.reverse)
    have parts := List.takeWhile_append_dropWhile (p := Text.isBlank) (l := behind)
    rw [backwards, ← parts, first] at whole
    refine ⟨mark.reverse, (behind.takeWhile Text.isBlank).reverse, own.reverse,
      (head.reverse.takeWhile Text.isBlank).reverse, ?_, ?_, ?_, ?_⟩
    · simpa using (congrArg List.reverse whole).symm
    · intro c member
      exact List.mem_takeWhile_imp (List.mem_reverse.mp member)
    · rwa [← Text.isCaseOf_reverse, List.reverse_reverse]
    · intro c member
      exact List.mem_takeWhile_imp (List.mem_reverse.mp member)
  · cases named

--------------------------------------------------------------------------------
-- The URI at the start of a text
--------------------------------------------------------------------------------

/-- Two texts that go on alike behind their first commas. -/
theorem eq_of_comma {front front' rest rest' : List Char} (free : ',' ∉ front)
    (free' : ',' ∉ front') (same : front ++ ',' :: rest = front' ++ ',' :: rest')
    : front = front' ∧ rest = rest' := by
  have noComma {text : List Char} (free : ',' ∉ text) : ∀ c ∈ text, (c != ',') = true :=
    fun c member => bne_iff_ne.mpr fun is => free (is ▸ member)
  have stop (rest : List Char) : ∀ c ∈ (',' :: rest).head?, (c != ',') = false := by
    rintro _ ⟨⟩
    rfl
  have fronts := congrArg (List.takeWhile (· != ',')) same
  rw [Text.takeWhile_append_of_head (noComma free) (stop rest),
    Text.takeWhile_append_of_head (noComma free') (stop rest')] at fronts
  subst fronts
  exact ⟨rfl, (List.cons.inj (List.append_cancel_left same)).2⟩

namespace DataUri

variable (uri : DataUri)

theorem comma_not_mem_scheme : ',' ∉ uri.scheme :=
  fun member => (isBare_of_isCaseOf uri.isScheme isBare_scheme _ member).2 rfl

theorem comma_not_mem_head : ',' ∉ uri.head := by
  have blanks {text : List Char} (all : ∀ c ∈ text, Text.isBlank c = true) : ',' ∉ text :=
    fun member => absurd (all _ member) (by decide)
  have encoding : ',' ∉ uri.encoding :=
    fun member => (isBare_of_isCaseOf uri.isEncoding isBare_encoding _ member).2 rfl
  simp [head, uri.noComma, blanks uri.blankBefore, encoding, blanks uri.blankAfter]

theorem takeWhile_payload
    : (uri.payload ++ uri.rest).takeWhile (!endsPayload ·) = uri.payload := by
  refine Text.takeWhile_append_of_head (fun c member => endsPayload_iff.mpr (uri.bare c member)) ?_
  intro c first
  exact Bool.eq_false_iff.mpr fun goesOn => uri.stops c first (endsPayload_iff.mp goesOn)

theorem dropWhile_payload
    : (uri.payload ++ uri.rest).dropWhile (!endsPayload ·) = uri.rest := by
  refine Text.dropWhile_append_of_head (fun c member => endsPayload_iff.mpr (uri.bare c member)) ?_
  intro c first
  exact Bool.eq_false_iff.mpr fun goesOn => uri.stops c first (endsPayload_iff.mp goesOn)

theorem namesBase64_head : namesBase64 uri.head = true :=
  namesBase64_of_isCaseOf uri.media uri.blankBefore uri.isEncoding uri.blankAfter

/-- The data URI at the start of a text is read with its payload. -/
theorem payloadAt?_text : payloadAt? uri.text = some (uri.payload, uri.rest) := by
  have scheme
      : Text.dropWordIgnoringCase "data:".toList uri.text
        = some (uri.head ++ ',' :: (uri.payload ++ uri.rest)) :=
    (Text.dropWordIgnoringCase_iff isFolded_scheme).mpr ⟨uri.scheme, rfl, uri.isScheme⟩
  have noComma : ∀ c ∈ uri.head, (c != ',') = true :=
    fun c member => bne_iff_ne.mpr fun is => uri.comma_not_mem_head (is ▸ member)
  have stop : ∀ c ∈ (',' :: (uri.payload ++ uri.rest)).head?, (c != ',') = false := by
    rintro _ ⟨⟩
    rfl
  unfold payloadAt?
  simp only [scheme, Text.takeWhile_append_of_head noComma stop,
    Text.dropWhile_append_of_head noComma stop, uri.namesBase64_head, if_true,
    uri.takeWhile_payload, uri.dropWhile_payload]

end DataUri

/-- What is read at the start of a text is a data URI that stands there. -/
theorem exists_uri_of_payloadAt? {text payload after : List Char}
    (found : payloadAt? text = some (payload, after))
    : ∃ uri : DataUri, uri.text = text ∧ uri.payload = payload ∧ uri.rest = after := by
  unfold payloadAt? at found
  split at found
  · cases found
  · rename_i inside scheme
    split at found
    · cases found
    · rename_i comma data behind
      split at found
      · rename_i named
        simp only [Option.some.injEq, Prod.mk.injEq] at found
        obtain ⟨own, rfl, isScheme⟩ := (Text.dropWordIgnoringCase_iff isFolded_scheme).mp scheme
        obtain ⟨media, before, encoding, after, headIs, blankBefore, isEncoding, blankAfter⟩ :=
          exists_of_namesBase64 named
        obtain rfl : comma = ',' := by
          have stop := List.head?_dropWhile_not (· != ',') inside
          rw [behind] at stop
          simpa using stop
        have noComma : ',' ∉ media := by
          intro member
          have inHead : ',' ∈ inside.takeWhile (· != ',') := by
            rw [headIs]
            exact List.mem_append_left _ member
          simpa using List.mem_takeWhile_imp inHead
        refine ⟨⟨own, isScheme, media, noComma, before, blankBefore, encoding, isEncoding, after,
          blankAfter, data.takeWhile (!endsPayload ·), ?_, data.dropWhile (!endsPayload ·), ?_⟩,
          ?_, found.1, found.2⟩
        · exact fun c member => endsPayload_iff.mp
            (List.mem_takeWhile_imp (p := fun c => !endsPayload c) member)
        · intro c first
          have stop := List.head?_dropWhile_not (!endsPayload ·) data
          rw [Option.mem_def.mp first] at stop
          exact fun bare => absurd (endsPayload_iff.mpr bare) (by simpa using stop)
        · rw [DataUri.text, DataUri.head, ← headIs, List.takeWhile_append_dropWhile, ← behind,
            List.takeWhile_append_dropWhile]
      · cases found

--------------------------------------------------------------------------------
-- Overlaps
--------------------------------------------------------------------------------

/-- Two texts whose bare characters at the start end in the same place. -/
theorem eq_of_stops {front front' rest rest' : List Char}
    (bare : ∀ c ∈ front, IsBare c) (stops : ∀ c ∈ rest.head?, ¬ IsBare c)
    (bare' : ∀ c ∈ front', IsBare c) (stops' : ∀ c ∈ rest'.head?, ¬ IsBare c)
    (same : front ++ rest = front' ++ rest')
    : front = front' := by
  have fronts := congrArg (List.takeWhile (decide <| IsBare ·)) same
  rwa [Text.takeWhile_append_of_head (by simpa using bare) (by simpa using stops),
    Text.takeWhile_append_of_head (by simpa using bare') (by simpa using stops')] at fronts

namespace DataUri

variable {first second : DataUri}

theorem payload_eq_of_data (same : first.payload ++ first.rest = second.payload ++ second.rest)
    : first.payload = second.payload := by
  rw [← first.takeWhile_payload, same, second.takeWhile_payload]

/-- In a tight URI everything up to the end of the payload is bare. -/
theorem IsTight.bare (tight : second.IsTight)
    : ∀ c ∈ second.scheme ++ (second.head ++ ',' :: second.payload), IsBare c := by
  have scheme := fun c member => (isBare_of_isCaseOf second.isScheme isBare_scheme c member).1
  have encoding := fun c member => (isBare_of_isCaseOf second.isEncoding isBare_encoding c member).1
  have marks : IsBare ';' ∧ IsBare ',' := by decide
  simp only [head, tight.before, tight.after, List.nil_append, List.append_nil,
    List.forall_mem_append, List.forall_mem_cons]
  exact ⟨scheme, ⟨tight.media, marks.1, encoding⟩, marks.2, second.bare⟩

/-- A tight URI that begins in another one has at most its payload, or begins behind it.
Witness: up to the comma of the first URI it shares that comma; from there on all of it is bare, so
that the payload of the first goes on over it.
-/
theorem overlap (tight : second.IsTight) (inside : second.text <:+ first.text)
    : second.payload.length ≤ first.payload.length ∨ second.text <:+ first.rest := by
  have parts (uri : DataUri)
      : uri.text = (uri.scheme ++ uri.head) ++ ',' :: (uri.payload ++ uri.rest) := by
    rw [text, List.append_assoc]
  have front (uri : DataUri) : ',' ∉ uri.scheme ++ uri.head := by
    simp [uri.comma_not_mem_scheme, uri.comma_not_mem_head]
  have behindComma : ',' :: (first.payload ++ first.rest) <:+ first.text := by
    rw [parts first]
    exact List.suffix_append _ _
  rcases List.suffix_or_suffix_of_suffix inside behindComma with later | earlier
  · rcases List.suffix_cons_iff.mp later with atComma | inData
    · obtain ⟨c, rest, start⟩ := exists_cons_of_isCaseOf second.isScheme
      rw [text, start, List.cons_append, List.cons.injEq] at atComma
      have member : ',' ∈ second.scheme := by
        rw [start, atComma.1]
        exact List.mem_cons_self
      exact absurd member second.comma_not_mem_scheme
    · rcases List.suffix_or_suffix_of_suffix inData (List.suffix_append _ first.rest)
        with behind | before
      · exact Or.inr behind
      · left
        obtain ⟨start, whole⟩ := before
        obtain ⟨skipped, data⟩ := inData
        rw [← whole, ← List.append_assoc, List.append_cancel_right_eq] at data
        have bareStart : ∀ c ∈ start, IsBare c :=
          fun c member => first.bare c (data ▸ List.mem_append_right _ member)
        have bound : start.length ≤ first.payload.length := by
          rw [← data, List.length_append]
          exact Nat.le_add_left _ _
        have front
            : second.text
              = (second.scheme ++ (second.head ++ ',' :: second.payload)) ++ second.rest := by
          simp [text]
        rw [front] at whole
        have same := eq_of_stops bareStart first.stops tight.bare second.stops whole
        rw [same] at bound
        simp only [List.length_append, List.length_cons] at bound
        omega
  · left
    obtain ⟨start, whole⟩ := earlier
    obtain ⟨skipped, all⟩ := inside
    rw [← whole, parts first, ← List.append_assoc, List.append_cancel_right_eq] at all
    have free : ',' ∉ start := by
      intro member
      apply front first
      rw [← all]
      exact List.mem_append_right _ member
    rw [parts second] at whole
    exact (payload_eq_of_data (eq_of_comma free (front second) whole).2).symm ▸ Nat.le_refl _

end DataUri

--------------------------------------------------------------------------------
-- All payloads
--------------------------------------------------------------------------------

namespace DataUri

variable (uri : DataUri)

theorem rest_suffix : uri.rest <:+ uri.text :=
  ⟨uri.scheme ++ (uri.head ++ ',' :: uri.payload), by simp [text]⟩

theorem exists_text_eq_cons : ∃ c behind, uri.text = c :: behind ∧ uri.rest <:+ behind := by
  obtain ⟨c, scheme, start⟩ := exists_cons_of_isCaseOf uri.isScheme
  refine ⟨c, scheme ++ (uri.head ++ ',' :: (uri.payload ++ uri.rest)), ?_, ?_⟩
  · rw [text, start, List.cons_append]
  · exact ⟨scheme ++ (uri.head ++ ',' :: uri.payload), by simp⟩

/-- The search goes on behind a payload. -/
theorem payloads_text : payloads uri.text = uri.payload :: payloads uri.rest := by
  have found := uri.payloadAt?_text
  obtain ⟨c, behind, whole, inside⟩ := uri.exists_text_eq_cons
  rw [whole] at found ⊢
  rw [payloads, found]
  simp only [if_pos inside.length_le]

end DataUri

theorem payloads_of_none {c : Char} {rest : List Char} (missed : payloadAt? (c :: rest) = none)
    : payloads (c :: rest) = payloads rest := by
  rw [payloads, missed]

/-- Along the search: a data URI is passed as a whole, anything else character by character. -/
theorem payloads_induction {motive : List Char → Prop} (nil : motive [])
    (uri : ∀ uri : DataUri, motive uri.rest → motive uri.text)
    (other : ∀ c rest, payloadAt? (c :: rest) = none → motive rest → motive (c :: rest))
    (text : List Char)
    : motive text := by
  fun_induction payloads text with
  | case1 => exact nil
  | case2 c rest payload after found behind _ =>
    obtain ⟨first, whole, rfl, rfl⟩ := exists_uri_of_payloadAt? found
    obtain ⟨_, _, same, inside⟩ := first.exists_text_eq_cons
    obtain ⟨rfl, rfl⟩ := List.cons.inj (whole.symm.trans same)
    exact whole ▸ uri first (behind inside.length_le)
  | case3 c rest missed behind => exact other c rest missed behind

/-- Every payload is the one of a data URI in the text. -/
theorem exists_uri_of_mem_payloads {text payload : List Char} (member : payload ∈ payloads text)
    : ∃ uri : DataUri, uri.text <:+ text ∧ uri.payload = payload := by
  induction text using payloads_induction with
  | nil => simp [payloads] at member
  | uri first behind =>
    rw [first.payloads_text, List.mem_cons] at member
    rcases member with rfl | later
    · exact ⟨first, List.suffix_refl _, rfl⟩
    · obtain ⟨uri, inside, same⟩ := behind later
      exact ⟨uri, inside.trans first.rest_suffix, same⟩
  | other c rest missed behind =>
    obtain ⟨uri, inside, same⟩ := behind (payloads_of_none missed ▸ member)
    exact ⟨uri, inside.trans (List.suffix_cons c rest), same⟩

/-- Some payload that is found is at least as long as that of a tight data URI.
Witness: where it begins in a URI that is found before it, `DataUri.overlap` decides.
-/
theorem exists_mem_payloads {uri : DataUri} (tight : uri.IsTight) {text : List Char}
    (inside : uri.text <:+ text)
    : ∃ payload ∈ payloads text, uri.payload.length ≤ payload.length := by
  induction text using payloads_induction with
  | nil =>
    obtain ⟨_, _, whole, _⟩ := uri.exists_text_eq_cons
    simp [whole] at inside
  | uri first behind =>
    rw [first.payloads_text]
    rcases DataUri.overlap tight inside with shorter | later
    · exact ⟨first.payload, List.mem_cons_self, shorter⟩
    · obtain ⟨payload, member, bound⟩ := behind later
      exact ⟨payload, List.mem_cons_of_mem _ member, bound⟩
  | other c rest missed behind =>
    rw [payloads_of_none missed]
    rcases List.suffix_cons_iff.mp inside with here | later
    · have found := uri.payloadAt?_text
      rw [here, missed] at found
      cases found
    · exact behind later

/-- Payloads of tight data URIs count against the limit, wherever they stand. -/
theorem holdsOversized_of_isTight {uri : DataUri} (tight : uri.IsTight) {value : String}
    (inside : uri.text <:+ value.toList) {limit : Int} (large : limit < uri.payload.length)
    : holdsOversized limit value = true := by
  obtain ⟨payload, member, bound⟩ := exists_mem_payloads tight inside
  exact List.any_eq_true.mpr ⟨payload, member, by simp; omega⟩

/-- Nothing but payloads of data URIs counts against the limit. -/
theorem exists_uri_of_holdsOversized {limit : Int} {value : String}
    (oversized : holdsOversized limit value = true)
    : ∃ uri : DataUri, uri.text <:+ value.toList ∧ limit < uri.payload.length := by
  obtain ⟨payload, member, large⟩ := List.any_eq_true.mp oversized
  obtain ⟨uri, inside, rfl⟩ := exists_uri_of_mem_payloads member
  exact ⟨uri, inside, of_decide_eq_true large⟩

--------------------------------------------------------------------------------
-- The pass
--------------------------------------------------------------------------------

/-- Of the declarations that cleaning alone would leave, the pass takes the oversized ones. -/
theorem allDeclarations_removeOversized (limit : Int) (sheet : Stylesheet)
    : Stylesheet.allDeclarations (removeOversized limit sheet).sheet
      = (Stylesheet.allDeclarations (Stylesheet.withoutEmpty sheet)).filter
          (!isOversized limit ·) := by
  have nothing : Stylesheet.dropDeclarations (fun _ => false) sheet = sheet :=
    Stylesheet.dropDeclarations_eq_self _ fun _ _ => rfl
  have cleaned
      := Stylesheet.withoutEmpty_dropDeclarations_twice (fun _ => false) (isOversized limit) sheet
  simp only [nothing, Bool.false_or] at cleaned
  have selective := Stylesheet.selective_withoutEmpty sheet
  rw [removeOversized, ← cleaned, Stylesheet.allDeclarations,
    Stylesheet.declarations_withoutEmpty _ (selective.dropDeclarations _),
    Stylesheet.declarations_dropDeclarations]
  rfl

/-- The pass takes declarations only for what they embed. It takes each one whose value holds a
tight data URI with a payload beyond the limit, wherever that stands, and none without a data URI
that has such a payload. The others stay in order; cleaning takes none of them, unless a style rule
has no selectors.
-/
theorem removes_oversized (limit : Int) (sheet : Stylesheet)
    : (Stylesheet.allDeclarations (removeOversized limit sheet).sheet
          = (Stylesheet.allDeclarations (Stylesheet.withoutEmpty sheet)).filter
              (!isOversized limit ·)
        ∧ (Stylesheet.Selective sheet
          → Stylesheet.allDeclarations (Stylesheet.withoutEmpty sheet)
              = Stylesheet.allDeclarations sheet))
      ∧ ∀ declaration : Declaration,
          (∀ uri : DataUri, uri.IsTight → uri.text <:+ declaration.value.toList
            → limit < uri.payload.length → isOversized limit declaration = true)
          ∧ (isOversized limit declaration = true
            → ∃ uri : DataUri, uri.text <:+ declaration.value.toList
                ∧ limit < uri.payload.length) := by
  refine ⟨⟨allDeclarations_removeOversized limit sheet, ?_⟩, fun declaration => ⟨?_, ?_⟩⟩
  · exact Stylesheet.declarations_withoutEmpty _
  · exact fun _ tight inside large => holdsOversized_of_isTight tight inside large
  · exact exists_uri_of_holdsOversized

/-- An image of five characters behind data that is not in base 64. -/
def shoutedImage : DataUri where
  scheme := "DATA:".toList
  isScheme := by simp [Text.IsCaseOf]
  media := "image/png".toList
  noComma := by simp
  before := []
  blankBefore := by simp
  encoding := "Base64".toList
  isEncoding := by simp [Text.IsCaseOf]
  after := []
  blankAfter := by simp
  payload := "AAAAA".toList
  bare := by simp; decide
  rest := [')']
  stops := by simp; decide

def imageSheet : Stylesheet :=
  [.style ["a"]
    [.set "mask" "url(data:;base64,AAAA)" false,
      .set "cursor" "url(data:,) url(DATA:image/png;Base64,AAAAA)" false]]

/-- An image of four characters stays, one of five goes. -/
theorem removes_oversized_imageSheet
    : Stylesheet.Selective imageSheet
      ∧ shoutedImage.IsTight
      ∧ Stylesheet.allDeclarations (removeOversized 4 imageSheet).sheet
        = [.set "mask" "url(data:;base64,AAAA)" false]
      ∧ ∃ uri : DataUri,
          uri.text <:+ "url(data:,) url(DATA:image/png;Base64,AAAAA)".toList
          ∧ 4 < (uri.payload.length : Int) := by
  have selective : Stylesheet.Selective imageSheet := by
    simp [imageSheet, Stylesheet.Selective, Node.Selective]
  have tight : shoutedImage.IsTight := ⟨by simp [shoutedImage]; decide, rfl, rfl⟩
  have inside
      : shoutedImage.text <:+ "url(data:,) url(DATA:image/png;Base64,AAAAA)".toList :=
    ⟨"url(data:,) url(".toList, by decide⟩
  obtain ⟨⟨filtered, all⟩, takes⟩ := removes_oversized 4 imageSheet
  have large := (takes (.set "cursor" "url(data:,) url(DATA:image/png;Base64,AAAAA)" false)).1
    shoutedImage tight inside (by decide)
  have small : isOversized 4 (.set "mask" "url(data:;base64,AAAA)" false) = false := by cbv
  refine ⟨selective, tight, ?_, (takes _).2 large⟩
  rw [filtered, all selective]
  simp [imageSheet, Stylesheet.allDeclarations, Stylesheet.declarations, Node.declarations, small,
    large]

end CriticalCss.Tidy
