import CriticalCss.Media

/-! A larger screen meets more media queries, and so does one whose size is not looked at. Sizes
only ever count against a query, as lower bounds that exceed them, and what exceeds a size exceeds
every smaller one. This holds of every text, also of those that are no media queries.
-/

namespace CriticalCss

/-- What exceeds a whole number exceeds every smaller one. -/
theorem Decimal.Binary.exceeds_anti {number : Binary} {bound larger : Int} (le : bound ≤ larger)
    (exceeds : number.exceeds larger = true)
    : number.exceeds bound = true := by
  cases number with
  | finite negative mantissa exponent =>
    simp only [Binary.exceeds, decide_eq_true_eq] at exceeds ⊢
    have scaled := Int.mul_le_mul_of_nonneg_right le (Int.natCast_nonneg (twoTo (-exponent).toNat))
    exact Int.lt_of_le_of_lt scaled exceeds
  | infinite negative => exact exceeds
  | notANumber => exact exceeds

namespace Media

section Larger

variable {viewport larger : Viewport} {keepLarger always : Bool}
variable (wide : viewport.width ≤ larger.width) (high : viewport.height ≤ larger.height)

include wide high

/-- A feature bounds the same dimension of every viewport. -/
theorem Feature.exists_bounded?_of_larger {feature : Feature} {size : Int}
    (bounded : feature.bounded? larger = some size)
    : ∃ own ≤ size, feature.bounded? viewport = some own := by
  unfold Feature.bounded? at bounded ⊢
  split at bounded
  · cases bounded
    exact ⟨_, wide, rfl⟩
  · cases bounded
    exact ⟨_, wide, rfl⟩
  · cases bounded
    exact ⟨_, high, rfl⟩
  · cases bounded
    exact ⟨_, high, rfl⟩
  · cases bounded

/-- What asks for more than the larger viewport has asks for more than the smaller one has. -/
theorem Feature.rulesOut_anti {feature : Feature} (rulesOut : feature.rulesOut larger = true)
    : feature.rulesOut viewport = true := by
  unfold Feature.rulesOut at rulesOut ⊢
  split at rulesOut
  · rename_i size pixels bounded read
    obtain ⟨own, le, same⟩ := exists_bounded?_of_larger wide high bounded
    rw [same, read]
    exact Decimal.Binary.exceeds_anti le rulesOut
  · cases rulesOut

/-- Lower bounds that do not count against a query, or are not looked at, do so even less on a
larger screen. -/
theorem Query.bounds_mono (more : keepLarger = true → always = true) {features : List Feature}
    (kept : (keepLarger || !features.any (·.rulesOut viewport)) = true)
    : (always || !features.any (·.rulesOut larger)) = true := by
  simp only [Bool.or_eq_true, Bool.not_eq_true', List.any_eq_false] at kept ⊢
  refine kept.imp more fun within feature member rulesOut => ?_
  exact within feature member (Feature.rulesOut_anti wide high rulesOut)

/-- Of a query only the lower bounds depend on the screen, and only where its type leaves it open.
-/
theorem Query.mayMatch_mono (more : keepLarger = true → always = true) {query : Query}
    (matching : query.mayMatch viewport keepLarger = true)
    : query.mayMatch larger always = true := by
  obtain ⟨negated, type, features⟩ := query
  cases negated with
  | true => exact matching
  | false =>
    cases type with
    | none => exact bounds_mono wide high more matching
    | some type =>
      simp only [mayMatch, Bool.false_eq_true, if_false] at matching ⊢
      split at matching
      · cases matching
      · rename_i notOther
        rw [if_neg notOther]
        split at matching
        · rename_i unknown
          rw [if_pos unknown]
        · rename_i known
          rw [if_neg known]
          exact bounds_mono wide high more matching

/-- A list that may match a screen may match a larger one, and one whose size is not looked at. -/
theorem mayMatch_mono (more : keepLarger = true → always = true) {prelude : String}
    (matching : mayMatch prelude viewport keepLarger = true)
    : mayMatch prelude larger always = true := by
  simp only [mayMatch, Bool.or_eq_true, List.any_eq_true] at matching ⊢
  refine matching.imp_right fun ⟨text, member, own⟩ => ⟨text, member, ?_⟩
  exact Query.mayMatch_mono wide high more own

end Larger

/-- Whatever the text is, what may match a screen may match a larger one. It may also match where
lower bounds are not looked at, and there it makes no difference how large the screen is. -/
theorem mayMatch_of_larger (prelude : String) {viewport larger : Viewport}
    (wide : viewport.width ≤ larger.width) (high : viewport.height ≤ larger.height)
    (keepLarger : Bool)
    : (mayMatch prelude viewport keepLarger = true → mayMatch prelude larger keepLarger = true)
      ∧ (mayMatch prelude viewport keepLarger = true → mayMatch prelude viewport true = true)
      ∧ mayMatch prelude viewport true = mayMatch prelude larger true := by
  refine ⟨mayMatch_mono wide high id,
    mayMatch_mono (Int.le_refl _) (Int.le_refl _) fun _ => rfl, ?_⟩
  -- without the bounds the size is not used, so both ways have the same reason
  have unsized (query : Query) (viewport other : Viewport)
      : query.mayMatch viewport true = query.mayMatch other true := by
    simp only [Query.mayMatch, Bool.true_or]
  simp only [mayMatch, unsized _ viewport larger]

/-- A text with a bracket too many may match from the width on that it names, and not before. -/
theorem mayMatch_of_larger_unclosed
    : mayMatch "all ((MIN-width:75.1em)" ⟨1201, 900⟩ false = false
      ∧ mayMatch "all ((MIN-width:75.1em)" ⟨1202, 900⟩ false = true
      ∧ mayMatch "all ((MIN-width:75.1em)" ⟨1300, 901⟩ false = true := by
  have reached : mayMatch "all ((MIN-width:75.1em)" ⟨1202, 900⟩ false = true := by decide +kernel
  refine ⟨by decide +kernel, reached, ?_⟩
  exact (mayMatch_of_larger _ (by decide) (by decide) false).1 reached

end Media

end CriticalCss
