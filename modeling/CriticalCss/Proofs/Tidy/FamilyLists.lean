import CriticalCss.Proofs.Tidy.Families
import CriticalCss.Proofs.Tidy.FontFaces

/-! A list of families is read as its items exactly if the commas between them are those outside of
brackets. Quotes are not looked at where the list is cut: a comma in quotes cuts like any other, and
a bracket in quotes is waited for until it is closed.
-/

namespace CriticalCss.Tidy

theorem mem_listedFamilies_iff {value family : List Char}
    : family ∈ listedFamilies value
      ↔ ∃ piece ∈ Text.splitCommas value, Text.trim piece ≠ [] ∧ normalFamily piece = family := by
  simp [listedFamilies, and_assoc]

/-- No listed family has a comma outside of brackets. -/
theorem outerCommas_of_mem_listedFamilies {value family : List Char}
    (listed : family ∈ listedFamilies value)
    : Text.outerCommas 0 family = 0 := by
  obtain ⟨piece, member, _, rfl⟩ := mem_listedFamilies_iff.mp listed
  rw [outerCommas_normalFamily]
  exact Text.outerCommas_of_mem_splitCommas member

/-- Texts that are joined by commas are listed one by one exactly if each holds something, none has
a comma outside of brackets, and each but the last closes its brackets.
Witness: there are never more pieces than texts, so no piece can be left out as blank.
-/
theorem listedFamilies_intercalate_iff {texts : List (List Char)} (some : texts ≠ [])
    : listedFamilies ([','].intercalate texts) = texts.map normalFamily
      ↔ (∀ text ∈ texts, Text.trim text ≠ [])
        ∧ (∀ text ∈ texts, Text.outerCommas 0 text = 0)
        ∧ ∀ text ∈ texts.dropLast, text.foldl Text.depthAfter 0 = 0 := by
  constructor
  · intro listed
    have whole : ∀ text ∈ texts, Text.outerCommas 0 text = 0 := by
      intro text member
      have found : normalFamily text ∈ listedFamilies ([','].intercalate texts) := by
        rw [listed]
        exact List.mem_map_of_mem member
      rw [← outerCommas_normalFamily]
      exact outerCommas_of_mem_listedFamilies found
    have fewest := Text.outerCommas_intercalate_lt some whole 0
    have most : texts.length ≤ (Text.splitCommas ([','].intercalate texts)).length := by
      have count := congrArg List.length listed
      rw [listedFamilies, List.length_map, List.length_map] at count
      rw [← count]
      exact List.length_filter_le _ _
    rw [Text.length_splitCommas] at most
    have closed := Text.closed_of_outerCommas_intercalate whole (by omega)
    refine ⟨?_, whole, closed⟩
    have all := congrArg List.length listed
    rw [listedFamilies, Text.splitCommas_intercalate_of_closed some whole closed, List.length_map,
      List.length_map, List.length_filter_eq_length_iff] at all
    intro text member
    simpa using all text member
  · rintro ⟨visible, whole, closed⟩
    rw [listedFamilies, Text.splitCommas_intercalate_of_closed some whole closed,
      List.filter_eq_self.mpr]
    intro text member
    simpa using visible text member

namespace Written

open Media.Written (noGap space)

/-- The commas between the items are the only ones outside of brackets, brackets in quotes counted
like others, and no item is of typographic blanks alone. -/
structure IsSeparable (items : List Item) : Prop where
  visible : ∀ item ∈ items, Text.trim item.text ≠ []
  whole : ∀ item ∈ items, Text.outerCommas 0 item.text = 0
  closed : ∀ item ∈ items.dropLast, item.text.foldl Text.depthAfter 0 = 0

theorem listedFamilies_listText_iff {items : List Item} (some : items ≠ [])
    : listedFamilies (listText items) = items.map (·.family.normal) ↔ IsSeparable items := by
  have same : items.map (·.family.normal) = (items.map (·.text)).map normalFamily := by
    simp [Item.normalFamily_text]
  rw [listText, same, listedFamilies_intercalate_iff (by simpa using some)]
  simp only [List.forall_mem_map, ← List.map_dropLast]
  exact ⟨fun ⟨visible, whole, closed⟩ => ⟨visible, whole, closed⟩,
    fun ⟨visible, whole, closed⟩ => ⟨visible, whole, closed⟩⟩

/-- A list of families that is separable, and no other, is read as its items, in order and as they
are compared. While a declaration with such a list stands outside of definitions no font face is
taken that declares one of the items, in quotes or without.
-/
theorem refersTo_items {items : List Item} (some : items ≠ [])
    : (listedFamilies (listText items) = items.map (·.family.normal) ↔ IsSeparable items)
      ∧ (IsSeparable items
        → ∀ (sheet : Stylesheet) (declaration : Declaration),
            declaration ∈ referring sheet
            → declaration.property = "font-family"
            → declaration.value.toList = listText items
            → ∀ item ∈ items,
                (Stylesheet.leaves (removeUnusedFontFaces sheet).sheet).filter
                    (declaresFamily item.family.normal)
                  = (Stylesheet.leaves sheet).filter (declaresFamily item.family.normal)) := by
  refine ⟨listedFamilies_listText_iff some, ?_⟩
  intro separable sheet declaration survives property value item member
  apply fontFaces_kept survives
  rw [familiesOf, if_pos property, value, (listedFamilies_listText_iff some).mpr separable]
  exact List.mem_map_of_mem member

def serif : Item :=
  ⟨space.toGap, .named (.plain "serif".toList (by decide) (by decide)) [], noGap⟩

/-- A comma in brackets does not cut. -/
def bracketedItem : Item :=
  ⟨noGap, .quoted .double "A (B, C)".toList (List.all_iff_forall_prop.mp (by decide)), noGap⟩

def bracketedSheet : Stylesheet :=
  [.declarationBlock "font-face" "" [.set "font-family" "'A  (B, C)'" false],
    .style ["p"] [.set "font-family" "\"A (B, C)\", serif" false]]

theorem refersTo_items_bracketed
    : [bracketedItem, serif] ≠ []
      ∧ listedFamilies "\"A (B, C)\", serif".toList = ["a (b, c)".toList, "serif".toList]
      ∧ ((Stylesheet.leaves (removeUnusedFontFaces bracketedSheet).sheet).filter
          (declaresFamily "a (b, c)".toList)).length
        = 1 := by
  have some : [bracketedItem, serif] ≠ [] := by simp
  have separable : IsSeparable [bracketedItem, serif] := ⟨by decide, by decide, by decide⟩
  obtain ⟨listed, kept⟩ := refersTo_items some
  refine ⟨some, listed.mpr separable, ?_⟩
  have faces := kept separable bracketedSheet (.set "font-family" "\"A (B, C)\", serif" false)
    (by decide +kernel) rfl (by decide) bracketedItem List.mem_cons_self
  refine (congrArg List.length faces).trans ?_
  decide +kernel

def quotedComma : Item :=
  ⟨noGap, .quoted .double "A, B".toList (List.all_iff_forall_prop.mp (by decide)), noGap⟩

def quotedCommaSheet : Stylesheet :=
  [.declarationBlock "font-face" "" [.set "font-family" "\"A, B\"" false],
    .style ["p"] [.set "font-family" "\"A, B\", serif" false]]

/-- A family with a comma in its quotes is not found in a list, and its font face is taken while the
list stays.
-/
theorem not_refersTo_quotedComma
    : listText [quotedComma, serif] = "\"A, B\", serif".toList
      ∧ quotedComma.family.normal ∉ listedFamilies (listText [quotedComma, serif])
      ∧ (referring (removeUnusedFontFaces quotedCommaSheet).sheet).map (·.value)
        = ["\"A, B\", serif"]
      ∧ ((Stylesheet.leaves quotedCommaSheet).filter
          (declaresFamily quotedComma.family.normal)).length
        = 1
      ∧ ((Stylesheet.leaves (removeUnusedFontFaces quotedCommaSheet).sheet).filter
          (declaresFamily quotedComma.family.normal)).length
        = 0 := by
  refine ⟨?_, ?_, ?_, ?_, ?_⟩
  · decide
  · decide +kernel
  · decide +kernel
  · decide +kernel
  · decide +kernel

end Written

end CriticalCss.Tidy
