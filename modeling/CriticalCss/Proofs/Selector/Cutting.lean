import CriticalCss.Proofs.Selector.Places
import CriticalCss.Proofs.Text.Cutting

/-! What is cut out of a selector, and what is done to the ends of the rest. A text that holds no
pseudo to cut out is left as it is; any other loses a colon. So the number of colons in a query
tells whether something was cut out that should have stayed, and its number of stars whether one was
put behind it.
-/

namespace CriticalCss.Selector

--------------------------------------------------------------------------------
-- One pseudo
--------------------------------------------------------------------------------

variable {text rest after : List Char}

theorem suffix_of_afterStripped? (found : afterStripped? text = some after)
    : ∃ behind, text = ':' :: behind ∧ after <:+ behind := by
  obtain ⟨body, isBody, named⟩ := Option.bind_eq_some_iff.mp found
  have inBody : after <:+ body := afterName?_suffix named
  rcases eq_of_afterColons isBody with rfl | rfl
  · exact ⟨body, rfl, inBody⟩
  · exact ⟨':' :: body, rfl, inBody.trans (List.suffix_cons ':' body)⟩

theorem cutOut_of_none {c : Char} (none : afterStripped? (c :: rest) = none)
    : cutOut afterStripped? (c :: rest) = c :: cutOut afterStripped? rest := by
  rw [cutOut, none]

theorem cutOut_of_some (found : afterStripped? text = some after)
    : cutOut afterStripped? text = cutOut afterStripped? after := by
  obtain ⟨behind, rfl, suffix⟩ := suffix_of_afterStripped? found
  rw [cutOut, found]
  exact if_pos suffix.length_le

/-- Nothing is cut out of a text without colons. -/
theorem cutOut_of_not_mem {front : List Char} (free : ':' ∉ front) (rest : List Char)
    : cutOut afterStripped? (front ++ rest) = front ++ cutOut afterStripped? rest := by
  induction front with
  | nil => rfl
  | cons c front ih =>
    rw [List.mem_cons, not_or] at free
    have none : afterStripped? (c :: (front ++ rest)) = none :=
      Option.isSome_eq_false_iff.mp (isSearchFor_stripped.isSome_cons_of_ne (Ne.symm free.1) _)
        |> Option.isNone_iff_eq_none.mp
    rw [List.cons_append, cutOut_of_none none, ih free.2, List.cons_append]

/-- A single pseudo behind a text without colons is cut out, and the text is what is left. -/
theorem cutOut_of_last {front pseudo : List Char} (free : ':' ∉ front)
    (found : afterStripped? pseudo = some [])
    : cutOut afterStripped? (front ++ pseudo) = front := by
  rw [cutOut_of_not_mem free, cutOut_of_some found, cutOut, List.append_nil]

theorem afterStripped?_colon {body : List Char}
    (starts : startsWithName strippedPseudos body = true)
    : afterStripped? (':' :: body) = afterName? strippedPseudos body :=
  congrArg (Option.bind · (afterName? strippedPseudos))
    (afterColons_cons (isSearchFor_stripped.head_of_begins starts))

/-- What follows a pseudo in front of what stops it. -/
theorem afterStripped?_append (stops : Stops rest) (found : afterStripped? text = some after)
    : afterStripped? (text ++ rest) = some (after ++ rest) := by
  obtain ⟨body, isBody, named⟩ := Option.bind_eq_some_iff.mp found
  have behind : afterName? strippedPseudos (body ++ rest) = some (after ++ rest) := by
    have longer := afterName?_append areNames_stripped stops body
    rwa [show afterName? strippedPseudos body = some after from named] at longer
  have starts : startsWithName strippedPseudos (body ++ rest) = true := by
    rw [startsWithName_eq, behind]
    rfl
  rcases eq_of_afterColons isBody with rfl | rfl
  · exact (afterStripped?_colon starts).trans behind
  · exact behind

/-- A colon in front of a pseudo of one colon is cut out with it. -/
theorem cutOut_colon {body : List Char} (starts : startsWithName strippedPseudos body = true)
    : cutOut afterStripped? (':' :: ':' :: body) = cutOut afterStripped? (':' :: body) := by
  obtain ⟨after, found⟩ := Option.isSome_iff_exists.mp ((startsWithName_eq _ _).symm.trans starts)
  have one : afterStripped? (':' :: body) = some after := (afterStripped?_colon starts).trans found
  have two : afterStripped? (':' :: ':' :: body) = some after := found
  rw [cutOut_of_some one, cutOut_of_some two]

--------------------------------------------------------------------------------
-- Colons tell what was cut out
--------------------------------------------------------------------------------

/-- A condition tells whether a text is found that should be; if it is not, colons are missing. -/
inductive KeepsIf (condition : Prop) (own found : List Char) : Prop where
  | kept (holds : condition) (same : found = own)
  | lost (fails : ¬condition) (fewer : found.count ':' < own.count ':')

namespace KeepsIf

variable {condition other : Prop} {front own found behind : List Char}

theorem congr (same : condition ↔ other) (keeps : KeepsIf condition own found)
    : KeepsIf other own found := by
  rwa [← same]

/-- What is behind a text may be kept or not as well. -/
theorem append (first : KeepsIf condition (front ++ behind) found)
    (second : KeepsIf other own behind)
    : KeepsIf (condition ∧ other) (front ++ own) found := by
  rcases first with ⟨holds, rfl⟩ | ⟨fails, fewer⟩ <;>
    rcases second with ⟨holds', rfl⟩ | ⟨fails', fewer'⟩
  · exact .kept ⟨holds, holds'⟩ rfl
  · refine .lost (fun both => fails' both.2) ?_
    rw [List.count_append, List.count_append]
    omega
  · exact .lost (fun both => fails both.1) fewer
  · refine .lost (fun both => fails both.1) ?_
    rw [List.count_append] at fewer ⊢
    omega

theorem count_le (keeps : KeepsIf condition own found) : found.count ':' ≤ own.count ':' := by
  cases keeps with
  | kept _ same => rw [same]
  | lost _ fewer => exact fewer.le

theorem of_count (keeps : KeepsIf condition own found) (same : found.count ':' = own.count ':')
    : condition ∧ found = own := by
  cases keeps with
  | kept holds same => exact ⟨holds, same⟩
  | lost _ fewer => exact absurd same fewer.ne

theorem of_holds (keeps : KeepsIf condition own found) (holds : condition) : found = own := by
  cases keeps with
  | kept _ same => exact same
  | lost fails _ => exact absurd holds fails

end KeepsIf

/-- A colon at the end of a text and the start of the rest are taken for a pseudo together. -/
def Meets (text rest : List Char) : Prop :=
  text.getLast? = some ':'
  ∧ ∃ body, rest = ':' :: body ∧ startsWithName strippedPseudos body = true

theorem meets_cons_iff {c : Char} (none : afterStripped? (c :: (text ++ rest)) = none)
    : Meets (c :: text) rest ↔ Meets text rest := by
  cases text with
  | nil =>
    refine ⟨?_, fun meets => nomatch meets.1⟩
    rintro ⟨last, body, rfl, starts⟩
    have isColon : c = ':' := by simpa using last
    subst isColon
    have both := (isSearchFor_stripped.found (':' :: ':' :: body)).mpr ⟨body, rfl, starts⟩
    rw [show afterStripped? (':' :: ':' :: body) = .none from none] at both
    cases both
  | cons d text => rw [Meets, Meets, List.getLast?_cons_cons]

/-- Where nothing is found at the start of a text, its first character stays. -/
theorem KeepsIf.cons {c : Char} (stops : Stops rest)
    (none : afterStripped? (c :: (text ++ rest)) = none)
    (behind : KeepsIf (occursIn afterStripped? text = false ∧ ¬Meets text rest)
      (text ++ cutOut afterStripped? rest) (cutOut afterStripped? (text ++ rest)))
    : KeepsIf (occursIn afterStripped? (c :: text) = false ∧ ¬Meets (c :: text) rest)
        (c :: (text ++ cutOut afterStripped? rest))
        (cutOut afterStripped? (c :: (text ++ rest))) := by
  have unfound : (afterStripped? (c :: text)).isSome = false := by
    refine Bool.eq_false_iff.mpr fun some => ?_
    have longer := isSearchFor_stripped.isSome_append stops some
    rw [List.cons_append, none] at longer
    cases longer
  have single : KeepsIf True ([c] ++ cutOut afterStripped? (text ++ rest))
      (c :: cutOut afterStripped? (text ++ rest)) :=
    .kept trivial rfl
  rw [cutOut_of_none none]
  refine (single.append behind).congr ?_
  rw [occursIn, unfound, Bool.false_or, meets_cons_iff none, true_and]

/-- Nothing of a text is cut out, whatever of the rest is, exactly if no pseudo is found in it and
none starts with its end. -/
theorem keepsIf_cutOut (stops : Stops rest) (text : List Char)
    : KeepsIf (occursIn afterStripped? text = false ∧ ¬Meets text rest)
        (text ++ cutOut afterStripped? rest) (cutOut afterStripped? (text ++ rest)) := by
  -- By induction on the length, since the scan goes on behind what it cuts out.
  induction size : text.length using Nat.strongRecOn generalizing text with
  | ind size ih =>
    subst size
    cases text with
    | nil => exact .kept ⟨rfl, fun meets => nomatch meets.1⟩ rfl
    | cons c text =>
      rw [List.cons_append, List.cons_append]
      cases found : afterStripped? (c :: (text ++ rest)) with
      | none => exact .cons stops found (ih text.length (by simp) text rfl)
      | some after =>
        rcases isSearchFor_stripped.isSome_of_append stops (by rw [List.cons_append, found]; rfl)
          with some | ⟨rfl, rfl, body, rfl, starts⟩
        · obtain ⟨own, isOwn⟩ := Option.isSome_iff_exists.mp some
          obtain rfl : own ++ rest = after :=
            Option.some.inj ((afterStripped?_append stops isOwn).symm.trans found)
          obtain ⟨behind, same, suffix⟩ := suffix_of_afterStripped? isOwn
          obtain ⟨rfl, rfl⟩ := List.cons.inj same
          have shorter : own.length < (':' :: text).length := Nat.lt_succ_of_le suffix.length_le
          have fewer := (ih own.length shorter own rfl).count_le
          have colons := suffix.sublist.count_le ':'
          refine .lost (fun both => absurd both.1 (by simp [occursIn, some])) ?_
          rw [cutOut_of_some found]
          rw [List.count_append] at fewer
          rw [List.count_cons_self, List.count_append]
          omega
        · refine .lost (fun both => both.2 ⟨rfl, body, rfl, starts⟩) ?_
          rw [List.nil_append, cutOut_colon starts, List.nil_append, List.count_cons_self]
          exact Nat.lt_succ_self _

--------------------------------------------------------------------------------
-- The ends of a query
--------------------------------------------------------------------------------

/-- What is done to a selector once the pseudos are cut out. -/
def completed (text : List Char) : List Char :=
  let stripped := Text.trim text
  if stripped.isEmpty then ['*']
  else if endsInCombinator stripped then Text.trim (stripped ++ [' ', '*'])
  else stripped

/-- A selector without a vendor's pseudo is asked about, strict or not. -/
theorem queryFor?_of_noVendor (noVendor : occursIn afterVendor? text = false) (strict : Bool)
    : queryFor? (String.ofList text) strict
      = some (String.ofList (completed (cutOut afterStripped? text))) := by
  rw [queryFor?, String.toList_ofList, if_neg (by simp [noVendor])]
  rfl

/-- The strict query of a selector. -/
theorem queryFor?_strict_eq_some_iff {query : List Char}
    : queryFor? (String.ofList text) true = some (String.ofList query)
      ↔ occursIn afterVendor? text = false ∧ completed (cutOut afterStripped? text) = query := by
  cases vendor : occursIn afterVendor? text with
  | true => simp [queryFor?, vendor]
  | false => simp [queryFor?_of_noVendor vendor, String.ofList_inj]

def isCombinator (c : Char) : Bool :=
  c == '>' || c == '+' || c == '~'

/-- A text with ends that stay as they are: it starts and ends with no blank, and it ends with no
character of a combinator, be that character escaped or not. -/
structure IsSettled (text : List Char) : Prop where
  start : ∀ c ∈ text.head?, Text.isBlank c = false
  ends : ∀ c ∈ text.getLast?, Text.isBlank c = false ∧ isCombinator c = false

/-- Is nothing left, or does the rest end in a combinator? -/
def lacksElement (text : List Char) : Bool :=
  (Text.trim text).isEmpty || endsInCombinator (Text.trim text)

theorem completed_of_lacksElement (lacks : lacksElement text = true)
    : completed text
      = if Text.trim text = [] then ['*'] else Text.trim text ++ [' ', '*'] := by
  by_cases nothing : Text.trim text = []
  · simp [completed, nothing]
  · have combinator : endsInCombinator (Text.trim text) = true := by
      simpa [lacksElement, nothing] using lacks
    obtain ⟨start, -⟩ := Text.isBlank_ends_trim text
    obtain ⟨first, others, same⟩ := List.exists_cons_of_ne_nil nothing
    rw [same] at start combinator nothing
    simp only [completed, same, if_neg nothing, List.isEmpty_cons, Bool.false_eq_true, if_false,
      if_pos combinator]
    refine Text.trim_of_ends start ?_
    rw [List.getLast?_append]
    rintro c ⟨⟩
    decide

theorem completed_of_not_lacksElement (lacks : lacksElement text = false)
    : completed text = Text.trim text := by
  rw [lacksElement, Bool.or_eq_false_iff] at lacks
  simp [completed, lacks]

theorem isSettled_completed (text : List Char) : IsSettled (completed text) := by
  obtain ⟨start, ends⟩ := Text.isBlank_ends_trim text
  cases lacks : lacksElement text with
  | true =>
    have star : IsSettled ['*'] := ⟨by simp [Text.isBlank], by simp [Text.isBlank, isCombinator]⟩
    rw [completed_of_lacksElement lacks]
    split
    · exact star
    · rename_i filled
      obtain ⟨first, others, same⟩ := List.exists_cons_of_ne_nil filled
      rw [same] at start ⊢
      refine ⟨start, ?_⟩
      rw [List.getLast?_append]
      exact star.ends
  | false =>
    rw [completed_of_not_lacksElement lacks]
    refine ⟨start, fun c last => ⟨ends c last, ?_⟩⟩
    rw [lacksElement, Bool.or_eq_false_iff, endsInCombinator, Option.mem_def.mp last] at lacks
    exact lacks.2

theorem trim_of_isSettled (settled : IsSettled text) : Text.trim text = text :=
  Text.trim_of_ends settled.start fun c last => (settled.ends c last).1

/-- Nothing is lacking where the end is no blank and no combinator. -/
theorem lacksElement_of_getLast? {c : Char} (last : text.getLast? = some c)
    (noBlank : Text.isBlank c = false) (noCombinator : isCombinator c = false)
    : lacksElement text = false := by
  obtain ⟨before, after, whole, front, back⟩ := Text.exists_trim text
  rw [whole, List.getLast?_append, List.getLast?_append] at last
  simp only [Option.or_eq_some_iff] at last
  have inside : (Text.trim text).getLast? = some c := by
    rcases last with (inAfter | ⟨-, inside⟩) | ⟨-, inBefore⟩
    · exact absurd (back c (List.mem_of_getLast? inAfter)) (by simp [noBlank])
    · exact inside
    · exact absurd (front c (List.mem_of_getLast? inBefore)) (by simp [noBlank])
  have filled : Text.trim text ≠ [] := by
    intro nothing
    rw [nothing] at inside
    cases inside
  rw [lacksElement, endsInCombinator, inside, List.isEmpty_eq_false_iff.mpr filled]
  exact noCombinator

theorem lacksElement_of_isSettled (filled : text ≠ []) (settled : IsSettled text)
    : lacksElement text = false := by
  have last := List.getLast?_eq_some_getLast filled
  exact lacksElement_of_getLast? last (settled.ends _ last).1 (settled.ends _ last).2

theorem completed_eq_self_iff (filled : text ≠ []) : completed text = text ↔ IsSettled text := by
  constructor
  · intro same
    exact same ▸ isSettled_completed text
  · intro settled
    rw [completed_of_not_lacksElement (lacksElement_of_isSettled filled settled),
      trim_of_isSettled settled]

theorem count_trim {c : Char} (noBlank : Text.isBlank c = false) (text : List Char)
    : (Text.trim text).count c = text.count c := by
  obtain ⟨before, after, whole, front, back⟩ := Text.exists_trim text
  have none {blanks : List Char} (all : ∀ d ∈ blanks, Text.isBlank d = true)
      : blanks.count c = 0 :=
    List.count_eq_zero.mpr fun member => absurd (all c member) (by simp [noBlank])
  have same : text.count c = (before ++ (Text.trim text ++ after)).count c :=
    congrArg (List.count c) whole
  rw [same, List.count_append, List.count_append, none front, none back]
  omega

/-- What is no blank is counted as before, but for the star. -/
theorem count_completed {c : Char} (noBlank : Text.isBlank c = false) (text : List Char)
    : (completed text).count c
      = text.count c + (if lacksElement text = true then ['*'] else []).count c := by
  have trimmed := count_trim noBlank text
  cases lacks : lacksElement text with
  | true =>
    rw [completed_of_lacksElement lacks, if_pos rfl]
    split
    · rename_i nothing
      rw [← trimmed, nothing, List.count_nil, Nat.zero_add]
    · have noSpace : ' ' ≠ c := by
        rintro rfl
        cases noBlank
      rw [List.count_append, trimmed, List.count_cons_of_ne noSpace]
  | false =>
    rw [completed_of_not_lacksElement lacks, trimmed]
    rfl

theorem count_colon_completed (text : List Char) : (completed text).count ':' = text.count ':' := by
  rw [count_completed (by decide)]
  cases lacksElement text <;> rfl

theorem count_star_completed (text : List Char)
    : (completed text).count '*' = text.count '*' + (lacksElement text).toNat := by
  rw [count_completed (by decide)]
  cases lacksElement text <;> rfl

end CriticalCss.Selector
