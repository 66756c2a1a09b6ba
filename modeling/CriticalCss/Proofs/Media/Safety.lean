import CriticalCss.Proofs.Media.Deciding

/-! Which media queries are dropped although they apply. A lower bound beyond the viewport counts
against a query with a type also where the query does not ask for it: under a "not", or on one side
of an "or". No other query that is true on a screen of the viewport is ever dropped.
-/

namespace CriticalCss.Media.Written

open Decimal

--------------------------------------------------------------------------------
-- Features
--------------------------------------------------------------------------------

/-- Both sizes are whole numbers that need no rounding. -/
structure IsExact (viewport : Viewport) : Prop where
  width : 0 ≤ viewport.width → IsWholeBinary viewport.width
  height : 0 ≤ viewport.height → IsWholeBinary viewport.height

/-- A size that a feature bounds from below is at least the value of the feature where that is true.
-/
theorem pixels_le_of_holds {atom : Atom} {screen : Screen} {value : Value} {size : Int}
    (valued : atom.value = some value) (bounded : atom.feature.bounded? screen.viewport = some size)
    (holds : atom.Holds screen)
    : value.length.pixels screen ≤ size
      ∧ (size = screen.viewport.width ∨ size = screen.viewport.height) := by
  unfold Feature.bounded? Atom.feature at bounded
  rw [Atom.Holds, valued] at holds
  dsimp only at bounded
  split at bounded
  case h_5 => cases bounded
  all_goals
    rename_i name
    cases bounded
    simp only [Screen.HasFeature, name] at holds
  · exact ⟨holds, .inl rfl⟩
  · exact ⟨holds, .inl rfl⟩
  · exact ⟨holds, .inr rfl⟩
  · exact ⟨holds, .inr rfl⟩

/-- A feature that asks for more than the viewport has is not true on a screen of the viewport. -/
theorem Atom.not_holds_of_rulesOut {atom : Atom} {screen : Screen} (exact : IsExact screen.viewport)
    (rulesOut : atom.feature.rulesOut screen.viewport = true)
    : ¬ atom.Holds screen := by
  intro holds
  unfold Feature.rulesOut at rulesOut
  split at rulesOut
  · rename_i size pixels bounded read
    cases valued : atom.value with
    | none =>
      rw [feature, valued] at read
      cases read
    | some value =>
      have read : pixels? value.length.text = some pixels := by
        rwa [feature, valued] at read
      obtain ⟨le, own⟩ := pixels_le_of_holds valued bounded holds
      have whole : 0 ≤ size → IsWholeBinary size := by
        rcases own with rfl | rfl
        · exact exact.width
        · exact exact.height
      have within := Length.isWithin_of_pixels? whole read le
      rw [within.exceeds_eq_false] at rulesOut
      cases rulesOut
  · cases rulesOut

--------------------------------------------------------------------------------
-- Conditions
--------------------------------------------------------------------------------

namespace Condition

variable {condition : Condition} {screen : Screen}

/-- What a condition demands is true wherever the condition is. -/
theorem exists_holds_of_mem_demands (holds : condition.Holds screen) {feature : Feature}
    (member : feature ∈ condition.demands)
    : ∃ atom : Atom, atom.feature = feature ∧ atom.Holds screen := by
  induction condition with
  | atom own =>
    rw [demands] at member
    split at member
    · exact ⟨own, (List.mem_singleton.mp member).symm, holds⟩
    · cases member
  | group before inside after ih => exact ih holds member
  | not space inside => cases member
  | joined joiner left before after right ihLeft ihRight =>
    cases joiner with
    | or => cases member
    | and =>
      rcases List.mem_append.mp member with inLeft | inRight
      · exact ihLeft holds.1 inLeft
      · exact ihRight holds.2 inRight

/-- A flat condition demands all of its features. -/
theorem demands_of_isFlat (flat : condition.isFlat = true)
    : condition.demands = condition.features := by
  induction condition with
  | atom own => rfl
  | group => cases flat
  | not => cases flat
  | joined joiner left before after right ihLeft ihRight =>
    cases joiner with
    | or => cases flat
    | and =>
      rw [isFlat, Bool.and_eq_true] at flat
      rw [demands, features, ihLeft flat.1, ihRight flat.2]

/-- A condition that demands what is beyond the viewport is not true there. -/
theorem rulesOut_of_mem_demands (exact : IsExact screen.viewport) (holds : condition.Holds screen)
    {feature : Feature} (member : feature ∈ condition.demands)
    : feature.rulesOut screen.viewport = false := by
  obtain ⟨atom, rfl, true⟩ := exists_holds_of_mem_demands holds member
  exact Bool.eq_false_iff.mpr fun rulesOut => Atom.not_holds_of_rulesOut exact rulesOut true

end Condition

--------------------------------------------------------------------------------
-- Queries
--------------------------------------------------------------------------------

/-- A query that is true on a screen is not dismissed for its viewport, if it asks for the lower
bounds that are beyond the viewport. -/
theorem Query.isDismissed_of_holds {query : Query} {screen : Screen}
    (exact : IsExact screen.viewport) (asks : query.AsksForLowerBounds screen.viewport)
    (holds : query.Holds screen)
    : query.isDismissed screen.viewport = false := by
  cases query with
  | untyped condition =>
    cases flat : condition.isFlat with
    | false => simp [isDismissed, flat]
    | true =>
      have none : ∀ feature ∈ condition.features, feature.rulesOut screen.viewport = false := by
        rw [← Condition.demands_of_isFlat flat]
        exact fun feature => Condition.rulesOut_of_mem_demands exact holds
      simpa [isDismissed, flat] using none
  | typed only type tail =>
    cases tail with
    | none => rfl
    | some tail =>
      refine List.any_eq_false.mpr fun feature member rulesOut => ?_
      have demanded := asks tail rfl feature member rulesOut
      rw [Condition.rulesOut_of_mem_demands exact (holds tail rfl) demanded] at rulesOut
      cases rulesOut

--------------------------------------------------------------------------------
-- Lists of queries
--------------------------------------------------------------------------------

/-- Just those lists are dropped of which every query is dismissed, and no query is dismissed for a
viewport on whose screens it is true if it asks for the lower bounds beyond the viewport. -/
theorem mayMatch_of_holds {prelude : String} {entries : List Entry}
    (spelled : Spells prelude entries) (viewport : Viewport) (keepLarger : Bool)
    : (mayMatch prelude viewport keepLarger = true
        ↔ entries = []
          ∨ keepLarger = true
          ∨ ∃ entry ∈ entries, entry.query.isDismissed viewport = false)
      ∧ (IsExact viewport →
        ∀ entry ∈ entries,
          entry.query.AsksForLowerBounds viewport →
          ∀ screen : Screen,
            screen.viewport = viewport →
            entry.query.Holds screen →
            mayMatch prelude viewport keepLarger = true) := by
  have decided
      : mayMatch prelude viewport keepLarger = true
        ↔ entries = []
          ∨ keepLarger = true
          ∨ ∃ entry ∈ entries, entry.query.isDismissed viewport = false := by
    rw [mayMatch_eq spelled]
    cases entries with
    | nil => simp
    | cons entry others => cases keepLarger <;> simp
  refine ⟨decided, ?_⟩
  rintro exact entry member asks screen rfl holds
  exact decided.mpr (.inr (.inr ⟨entry, member, Query.isDismissed_of_holds exact asks holds⟩))

/-- A lower bound of the width, in whole units. -/
def minWidth (digits unit : String)
    (numeral : digits.toList ≠ [] ∧ digits.toList.all Char.isDigit = true)
    (letters : unit.toList.all (fun c => 'a' ≤ c ∧ c ≤ 'z') = true) : Atom where
  before := noGap
  name := "min-width".toList
  named := ⟨by decide, List.all_eq_true.mp (by decide)⟩
  after := noGap
  value :=
    let number : Digits := ⟨digits.toList, List.all_eq_true.mp numeral.2, numeral.1⟩
    let ending := List.all_iff_forall_prop.mp letters
    some ⟨space.toGap, ⟨none, .whole number, none, unit.toList, ending⟩, noGap⟩

/-- A screen without any feature but its size. -/
def plainScreen (viewport : Viewport) : Screen :=
  ⟨viewport, fun _ => 0, fun _ _ => False⟩

/-- Screens that are less than 1200 pixels or at least 48 ems wide. -/
def wideQuery : Entry :=
  ⟨noGap, .typed (some space) .screen (some ⟨space, space,
    .group noGap
      (.joined .or
        (.group noGap (.not space (.atom (minWidth "1200" "px" (by decide) (by decide)))) noGap)
        space.toGap space
        (.atom (minWidth "48" "em" (by decide) (by decide))))
      noGap⟩), noGap⟩

/-- Whatever is at least 2000 pixels wide. -/
def farQuery : Entry :=
  ⟨space.toGap, .untyped (.atom (minWidth "2000" "px" (by decide) (by decide))), noGap⟩

/-- Screens that are less than 2000 pixels wide. -/
def narrowQuery : Entry :=
  ⟨noGap, .typed none .screen (some ⟨space, space,
    .group noGap (.not space (.atom (minWidth "2000" "px" (by decide) (by decide)))) noGap⟩), noGap⟩

/-- A list of two queries of which the second is dismissed. Neither the "not" nor the "or" of the
first is about more than the viewport has. -/
theorem mayMatch_of_holds_wideQuery
    : let text := "Only SCREEN and ((not (min-width: 1200px)) or (min-width: 48em))"
        ++ ", (min-width: 2000px)"
      Spells text [wideQuery, farQuery]
      ∧ IsExact ⟨1300, 900⟩
      ∧ wideQuery.query.AsksForLowerBounds ⟨1300, 900⟩
      ∧ wideQuery.query.Holds (plainScreen ⟨1300, 900⟩)
      ∧ farQuery.query.isDismissed ⟨1300, 900⟩ = true
      ∧ mayMatch text ⟨1300, 900⟩ false = true := by
  intro text
  have spelled : Spells text [wideQuery, farQuery] := by decide +kernel
  have exact : IsExact ⟨1300, 900⟩ :=
    ⟨fun notNegative => isWholeBinary_of_le notNegative (by decide),
      fun notNegative => isWholeBinary_of_le notNegative (by decide)⟩
  have holds : wideQuery.query.Holds (plainScreen ⟨1300, 900⟩) := by
    have value : Text.digitsValue 10 "48".toList = 48 := by decide
    rintro _ ⟨⟩
    refine Or.inr ?_
    norm_num [Condition.Holds, Atom.Holds, minWidth, Screen.HasFeature, Length.pixels,
      Length.number, Sign.factor, Mantissa.digits, Mantissa.places, plainScreen, value]
  have asks : wideQuery.query.AsksForLowerBounds ⟨1300, 900⟩ := by
    rintro _ ⟨⟩ feature member rulesOut
    simp only [Condition.features, List.mem_append] at member
    rcases member with first | second
    · rw [List.mem_singleton.mp first] at rulesOut
      exact absurd rulesOut (by decide +kernel)
    · rw [List.mem_singleton.mp second] at rulesOut
      exact absurd rulesOut (by decide +kernel)
  have dismissed : farQuery.query.isDismissed ⟨1300, 900⟩ = true := by decide +kernel
  exact ⟨spelled, exact, asks, holds, dismissed,
    (mayMatch_of_holds spelled ⟨1300, 900⟩ false).2 exact wideQuery List.mem_cons_self asks
      (plainScreen ⟨1300, 900⟩) rfl holds⟩

theorem dropped_narrowQuery
    : Spells "screen and (not (min-width: 2000px))" [narrowQuery]
      ∧ narrowQuery.query.Holds (plainScreen ⟨1300, 900⟩)
      ∧ mayMatch "screen and (not (min-width: 2000px))" ⟨1300, 900⟩ false = false := by
  have spelled : Spells "screen and (not (min-width: 2000px))" [narrowQuery] := by decide
  refine ⟨spelled, ?_, ?_⟩
  · have value : Text.digitsValue 10 "2000".toList = 2000 := by decide
    rintro _ ⟨⟩
    norm_num [Condition.Holds, Atom.Holds, minWidth, Screen.HasFeature, Length.pixels,
      Length.number, Sign.factor, Mantissa.digits, Mantissa.places, plainScreen, value]
  · rw [mayMatch_eq spelled]
    decide +kernel

end CriticalCss.Media.Written
