import CriticalCss.Proofs.Selector.Cutting

/-! The normal form of queries. Pseudos are cut out in a single pass, and the texts on both sides of
one meet in what is left. No pseudo arises there: what follows a name that has ended goes on with
none, and a colon left in front of another pseudo goes with that. So a query holds no pseudo that
would be cut out of it again, and asking about it asks the same.
-/

namespace CriticalCss.Selector

variable {begins : List Char → Prop} {after? : List Char → Option (List Char)} {text : List Char}

--------------------------------------------------------------------------------
-- Where a pseudo has been
--------------------------------------------------------------------------------

theorem occursIn_of_suffix {part : List Char} (suffix : part <:+ text)
    (free : occursIn after? text = false)
    : occursIn after? part = false := by
  induction text with
  | nil => rwa [List.suffix_nil.mp suffix]
  | cons c rest ih =>
    rcases List.suffix_cons_iff.mp suffix with rfl | behind
    · exact free
    · rw [occursIn, Bool.or_eq_false_iff] at free
      exact ih behind free.2

/-- Nothing occurs in a text exactly if it starts at no place of it. -/
theorem occursIn_eq_false_iff_forall
    : occursIn after? text = false
      ↔ ∀ c rest, c :: rest <:+ text → (after? (c :: rest)).isSome = false := by
  constructor
  · intro free c rest suffix
    have first := occursIn_of_suffix suffix free
    rw [occursIn, Bool.or_eq_false_iff] at first
    exact first.1
  · intro nowhere
    induction text with
    | nil => rfl
    | cons c rest ih =>
      have later := ih fun d others suffix => nowhere d others (suffix.trans (List.suffix_cons c rest))
      rw [occursIn, nowhere c rest (List.suffix_refl _), later]
      rfl

theorem stops_of_afterStripped? {after : List Char} (found : afterStripped? text = some after)
    : Stops after := by
  obtain ⟨body, -, named⟩ := Option.bind_eq_some_iff.mp found
  obtain ⟨name, -, some⟩ := List.exists_of_findSome?_eq_some named
  exact stops_iff.mpr (Option.filter_eq_some_iff.mp some).2

/-- What stops a name still does when pseudos are cut out of it.
Witness: either nothing is cut out at its start, or the rest behind the first pseudo stops a name.
-/
theorem Stops.cutOut (stops : Stops text) : Stops (cutOut afterStripped? text) := by
  induction size : text.length using Nat.strongRecOn generalizing text with
  | ind size ih =>
    subst size
    cases text with
    | nil => rwa [Selector.cutOut]
    | cons c rest =>
      cases found : afterStripped? (c :: rest) with
      | none =>
        rw [cutOut_of_none found]
        exact fun d first => stops d first
      | some after =>
        obtain ⟨behind, same, suffix⟩ := suffix_of_afterStripped? found
        obtain ⟨rfl, rfl⟩ := List.cons.inj same
        rw [cutOut_of_some found]
        exact ih after.length (Nat.lt_succ_of_le suffix.length_le) (stops_of_afterStripped? found) rfl

/-- Where nothing is found nothing is found after the rest is cut either.
Witness: induction on the rest. Behind the first pseudo that is cut out both the pseudo and what
follows it stop a name, so that only a colon in front could go on with what follows.
-/
theorem IsSearchFor.isSome_cutOut (search : IsSearchFor begins after?) {c : Char}
    {front rest : List Char} (none : (after? (c :: front ++ rest)).isSome = false)
    (free : ∀ part, part <:+ rest → occursIn after? (cutOut afterStripped? part) = false)
    : (after? (c :: front ++ cutOut afterStripped? rest)).isSome = false := by
  induction rest generalizing front with
  | nil => rwa [cutOut]
  | cons d rest ih =>
    cases found : afterStripped? (d :: rest) with
    | none =>
      have absent : (after? (c :: (front ++ [d]) ++ rest)).isSome = false := by simpa using none
      have later := ih absent fun part suffix =>
        free part (suffix.trans (List.suffix_cons d rest))
      rw [cutOut_of_none found]
      simpa using later
    | some after =>
      obtain ⟨behind, same, suffix⟩ := suffix_of_afterStripped? found
      obtain ⟨rfl, rfl⟩ := List.cons.inj same
      have colon : Stops (':' :: rest) := by
        rintro _ ⟨⟩
        rfl
      rw [cutOut_of_some found]
      refine Bool.eq_false_iff.mpr fun joined => ?_
      rcases search.isSome_of_append (stops_of_afterStripped? found).cutOut joined
        with inFront | ⟨rfl, rfl, body, left, starts⟩
      · cases (search.isSome_append colon inFront).symm.trans none
      · have nothing := free after (suffix.trans (List.suffix_cons ':' rest))
        have first := (search.isSome_cons_iff (search.head_of_begins starts)).mpr starts
        rw [left, occursIn, first] at nothing
        cases nothing

/-- What is found in a text only where a pseudo is cut out is not found in what is left. -/
theorem IsSearchFor.occursIn_cutOut (search : IsSearchFor begins after?)
    (cut
      : ∀ c rest,
          c :: rest <:+ text
            → (after? (c :: rest)).isSome = true
            → (afterStripped? (c :: rest)).isSome = true)
    : occursIn after? (cutOut afterStripped? text) = false := by
  induction size : text.length using Nat.strongRecOn generalizing text with
  | ind size ih =>
    subst size
    cases text with
    | nil =>
      rw [cutOut]
      rfl
    | cons c rest =>
      have inPart {part : List Char} (suffix : part <:+ rest)
          : occursIn after? (cutOut afterStripped? part) = false :=
        ih part.length (Nat.lt_succ_of_le suffix.length_le)
          (fun d others inside =>
            cut d others ((inside.trans suffix).trans (List.suffix_cons c rest)))
          rfl
      cases found : afterStripped? (c :: rest) with
      | none =>
        have absent : (after? ([c] ++ rest)).isSome = false := by
          refine Bool.eq_false_iff.mpr fun some => ?_
          have both := cut c rest (List.suffix_refl _) some
          rw [found] at both
          cases both
        have kept := search.isSome_cutOut absent fun part => inPart
        rw [cutOut_of_none found, occursIn, inPart (List.suffix_refl rest)]
        rw [Bool.or_false]
        exact kept
      | some after =>
        obtain ⟨behind, same, suffix⟩ := suffix_of_afterStripped? found
        obtain ⟨rfl, rfl⟩ := List.cons.inj same
        rw [cutOut_of_some found]
        exact inPart suffix

/-- A single pass cuts out all pseudos. -/
theorem occursIn_stripped_cutOut (text : List Char)
    : occursIn afterStripped? (cutOut afterStripped? text) = false :=
  isSearchFor_stripped.occursIn_cutOut fun _ _ _ found => found

/-- No vendor's pseudo arises where pseudos are cut out. -/
theorem occursIn_vendor_cutOut (noVendor : occursIn afterVendor? text = false)
    : occursIn afterVendor? (cutOut afterStripped? text) = false := by
  refine isSearchFor_vendor.occursIn_cutOut fun c rest suffix found => ?_
  rw [occursIn_eq_false_iff_forall.mp noVendor c rest suffix] at found
  cases found

--------------------------------------------------------------------------------
-- The ends of a query
--------------------------------------------------------------------------------

theorem IsSearchFor.occursIn_trim (search : IsSearchFor begins after?)
    (free : occursIn after? text = false)
    : occursIn after? (Text.trim text) = false := by
  obtain ⟨before, after, whole, -, back⟩ := Text.exists_trim text
  have behind := occursIn_of_suffix ⟨before, whole.symm⟩ free
  have stops : Stops after :=
    fun c first => isStop_of_isBlank (back c (List.mem_of_mem_head? first))
  rw [search.occursIn_append _ stops, Bool.or_eq_false_iff] at behind
  exact behind.1

/-- What is done to the ends of a text brings nothing into it that is searched for. -/
theorem IsSearchFor.occursIn_completed (search : IsSearchFor begins after?)
    (free : occursIn after? text = false)
    : occursIn after? (completed text) = false := by
  have trimmed := search.occursIn_trim free
  have noColon {own : List Char} (free : ':' ∉ own) : occursIn after? own = false := by
    have none := search.occursIn_of_not_mem free []
    rwa [List.append_nil] at none
  cases lacks : lacksElement text with
  | false => rwa [completed_of_not_lacksElement lacks]
  | true =>
    rw [completed_of_lacksElement lacks]
    split
    · exact noColon (by decide)
    · have stops : Stops [' ', '*'] := by
        rintro _ ⟨⟩
        rfl
      rw [search.occursIn_append _ stops, trimmed, noColon (by decide)]
      rfl

theorem completed_ne_nil (text : List Char) : completed text ≠ [] := by
  cases lacks : lacksElement text with
  | false =>
    rw [lacksElement, Bool.or_eq_false_iff, List.isEmpty_eq_false_iff] at lacks
    rw [completed_of_not_lacksElement (by simp [lacksElement, lacks])]
    exact lacks.1
  | true =>
    rw [completed_of_lacksElement lacks]
    split <;> simp

--------------------------------------------------------------------------------
-- Queries
--------------------------------------------------------------------------------

/-- A query in normal form. There is something in it, with no blank at either end and no combinator
at the last one, and nowhere in it a colon, or two, precede the name of a pseudo that no page tells.
-/
structure IsNormal (query : List Char) : Prop where
  filled : query ≠ []
  settled : IsSettled query
  bare
    : ∀ before body : List Char,
        query = before ++ ':' :: body → startsWithName strippedPseudos body = false

/-- Nothing is cut out of a text exactly if no colon in it precedes the name of a pseudo. -/
theorem occursIn_stripped_eq_false_iff
    : occursIn afterStripped? text = false
      ↔ ∀ before body : List Char,
          text = before ++ ':' :: body → startsWithName strippedPseudos body = false := by
  rw [occursIn_eq_false_iff_forall]
  constructor
  · rintro nowhere before body rfl
    refine Bool.eq_false_iff.mpr fun starts => ?_
    have found := nowhere ':' body (List.suffix_append before _)
    rw [afterStripped?_colon starts, ← startsWithName_eq, starts] at found
    cases found
  · rintro bare c rest ⟨before, rfl⟩
    refine Bool.eq_false_iff.mpr fun found => ?_
    obtain ⟨body, isBody, starts⟩ := (isSearchFor_stripped.found _).mp found
    rcases eq_of_afterColons isBody with whole | whole <;> rw [whole] at bare
    · rw [bare before body rfl] at starts
      cases starts
    · rw [bare (before ++ [':']) body (by simp)] at starts
      cases starts

theorem isNormal_completed (text : List Char)
    : IsNormal (completed (cutOut afterStripped? text)) where
  filled := completed_ne_nil _
  settled := isSettled_completed _
  bare := occursIn_stripped_eq_false_iff.mp
    (isSearchFor_stripped.occursIn_completed (occursIn_stripped_cutOut text))

/-- A query in normal form is asked about as it is, unless it has a vendor's pseudo. -/
theorem IsNormal.queryFor?_eq (normal : IsNormal text)
    (noVendor : occursIn afterVendor? text = false) (strict : Bool)
    : queryFor? (String.ofList text) strict = some (String.ofList text) := by
  have whole := (keepsIf_cutOut stops_nil text).of_holds
    ⟨occursIn_stripped_eq_false_iff.mpr normal.bare, fun meets => nomatch meets.2⟩
  rw [cutOut, List.append_nil] at whole
  rw [queryFor?_of_noVendor noVendor, whole, (completed_eq_self_iff normal.filled).mpr normal.settled]

/-- Every query is in normal form, and a query for a selector without a vendor's pseudo is its own
query, strict or not. -/
theorem isNormal_query {selector query : String} {strict : Bool}
    (asked : queryFor? selector strict = some query)
    : IsNormal query.toList
      ∧ (occursIn afterVendor? selector.toList = false →
          ∀ strict, queryFor? query strict = some query) := by
  cases vendor : occursIn afterVendor? selector.toList with
  | true =>
    refine ⟨?_, nofun⟩
    rw [queryFor?, if_pos vendor] at asked
    cases strict with
    | true => cases asked
    | false =>
      cases asked
      rw [String.toList_ofList]
      exact isNormal_completed _
  | false =>
    have own := queryFor?_of_noVendor vendor strict
    rw [String.ofList_toList, asked] at own
    obtain rfl := Option.some.inj own
    have noVendor := isSearchFor_vendor.occursIn_completed (occursIn_vendor_cutOut vendor)
    rw [String.toList_ofList]
    exact ⟨isNormal_completed _, fun _ => (isNormal_completed _).queryFor?_eq noVendor⟩

/-- Between two pseudos that are cut out a colon is left in front of a blank and a combinator. -/
theorem isNormal_query_leftColon
    : queryFor? "a:::before:first-line >" true = some "a: > *"
      ∧ IsNormal "a: > *".toList
      ∧ ∀ strict, queryFor? "a: > *" strict = some "a: > *" := by
  have asked : queryFor? "a:::before:first-line >" true = some "a: > *" := by decide +kernel
  obtain ⟨normal, again⟩ := isNormal_query asked
  exact ⟨asked, normal, again (by decide)⟩

end CriticalCss.Selector
