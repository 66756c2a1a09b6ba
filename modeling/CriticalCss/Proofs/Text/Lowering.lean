import CriticalCss.Proofs.Syntax.Names
import CriticalCss.Proofs.Text.Commas
import CriticalCss.Text.CaseFold

/-! Lower case in the range of the 128 characters that every encoding has. There it changes single
letters only, so that it makes no difference whether a text is cut before or after it. Over all
scripts it still leaves the marks of punctuation where they are, and makes no text shorter.
-/

namespace CriticalCss.Text

/-- A text of the first 128 characters. -/
def IsAscii (text : List Char) : Prop :=
  ∀ c ∈ text, c.toNat < 128

theorem IsAscii.append {front rest : List Char} (first : IsAscii front) (second : IsAscii rest)
    : IsAscii (front ++ rest) := by
  intro c member
  rcases List.mem_append.mp member with inFront | inRest
  · exact first c inFront
  · exact second c inRest

/-- A property of these characters is checked for one after the other. -/
theorem forall_ascii {P : Char → Prop} (each : ∀ code < 128, P (Char.ofNat code)) {c : Char}
    (ascii : c.toNat < 128)
    : P c := by
  rw [← Char.ofNat_toNat c]
  exact each c.toNat ascii

--------------------------------------------------------------------------------
-- Lower case
--------------------------------------------------------------------------------

theorem lower_of_isAscii {text : List Char} (ascii : IsAscii text)
    : lower text = text.map Char.toLower := by
  refine if_pos (List.all_eq_true.mpr fun c member => ?_)
  exact decide_eq_true (ascii c member)

theorem isAscii_of_map_toLower {text : List Char} (ascii : IsAscii (text.map Char.toLower))
    : IsAscii text := by
  intro c member
  rcases Syntax.toLower_cases c with ⟨n, small, rfl⟩ | kept
  · have codes : ∀ n < 26, (Char.ofNat (65 + n)).toNat < 128 := by decide
    exact codes n small
  · have own := ascii c.toLower (List.mem_map_of_mem member)
    rwa [kept] at own

/-- A character that is no capital stands for itself when case is ignored. -/
theorem caseKey_of_ascii {c : Char} (ascii : c.toNat < 128) : caseKey c = c.toLower :=
  forall_ascii (P := fun c => caseKey c = c.toLower) (by decide) ascii

theorem caseKey_of_toLower {c : Char} (ascii : c.toNat < 128) (small : c.toLower = c)
    : caseKey c = c :=
  (caseKey_of_ascii ascii).trans small

--------------------------------------------------------------------------------
-- Cutting and lower case
--------------------------------------------------------------------------------

/-- What is no letter is nothing else in lower case. -/
theorem toLower_eq_iff {c mark : Char} (noLetter : mark.isAlpha = false)
    : c.toLower = mark ↔ c = mark := by
  rcases Syntax.toLower_cases c with ⟨n, small, rfl⟩ | kept
  · have letters : ∀ n < 26, (Char.ofNat (65 + n)).toLower.isAlpha = true := by decide
    have capitals : ∀ n < 26, (Char.ofNat (65 + n)).isAlpha = true := by decide
    constructor
    · rintro rfl
      exact absurd (letters n small) (by simp [noLetter])
    · rintro rfl
      exact absurd (capitals n small) (by simp [noLetter])
  · rw [kept]

/-- A text that holds no letter in lower case held none before. -/
theorem eq_of_map_toLower {text own : List Char} (noLetter : ∀ c ∈ own, c.isAlpha = false)
    (same : text.map Char.toLower = own)
    : text = own := by
  subst same
  refine (List.map_id' _).symm.trans (List.map_congr_left fun c member => ?_)
  exact (toLower_eq_iff (noLetter _ (List.mem_map_of_mem member))).mp rfl

theorem toLower_toLower (c : Char) : c.toLower.toLower = c.toLower := by
  rcases Syntax.toLower_cases c with ⟨n, small, rfl⟩ | kept
  · have letters : ∀ n < 26,
        (Char.ofNat (65 + n)).toLower.toLower = (Char.ofNat (65 + n)).toLower := by
      decide
    exact letters n small
  · rw [kept, kept]

theorem map_toLower_map_toLower (text : List Char)
    : (text.map Char.toLower).map Char.toLower = text.map Char.toLower := by
  rw [List.map_map]
  exact List.map_congr_left fun c _ => toLower_toLower c

theorem toNat_lt_of_isAlpha {c : Char} (letter : c.isAlpha = true) : c.toNat < 128 := by
  rw [Syntax.isAlpha_iff] at letter
  omega

theorem isAlpha_of_isBlank {c : Char} (blank : isBlank c = true) : c.isAlpha = false := by
  refine Bool.eq_false_iff.mpr fun letter => ?_
  rw [Syntax.isAlpha_iff] at letter
  simp only [isBlank, Bool.or_eq_true, Bool.and_eq_true, beq_iff_eq, decide_eq_true_eq] at blank
  omega

theorem isBlank_toLower (c : Char) : isBlank c.toLower = isBlank c := by
  rcases Syntax.toLower_cases c with ⟨n, small, rfl⟩ | kept
  · have letters : ∀ n < 26,
        isBlank (Char.ofNat (65 + n)).toLower = isBlank (Char.ofNat (65 + n)) := by
      decide
    exact letters n small
  · rw [kept]

theorem depthAfter_toLower (depth : Nat) (c : Char)
    : depthAfter depth c.toLower = depthAfter depth c := by
  have opening : c.toLower = '(' ↔ c = '(' := toLower_eq_iff (by decide)
  have closing : c.toLower = ')' ↔ c = ')' := toLower_eq_iff (by decide)
  simp only [depthAfter, opening, closing]

theorem splitCommas_map_toLower (text : List Char)
    : splitCommas (text.map Char.toLower) = (splitCommas text).map (·.map Char.toLower) := by
  unfold splitCommas
  generalize 0 = depth
  induction text generalizing depth with
  | nil => rfl
  | cons c rest ih =>
    have comma : c.toLower = ',' ↔ c = ',' := toLower_eq_iff (by decide)
    rw [List.map_cons, splitCommasFrom, splitCommasFrom, depthAfter_toLower, ih]
    simp only [comma]
    split
    · rfl
    · cases splitCommasFrom (depthAfter depth c) rest <;> rfl

theorem dropWhile_isBlank_map_toLower (text : List Char)
    : (text.map Char.toLower).dropWhile isBlank = (text.dropWhile isBlank).map Char.toLower := by
  have same : isBlank ∘ Char.toLower = isBlank := funext isBlank_toLower
  rw [List.dropWhile_map, same]

theorem trim_map_toLower (text : List Char)
    : trim (text.map Char.toLower) = (trim text).map Char.toLower := by
  rw [trim, trimStart, trimEnd, dropWhile_isBlank_map_toLower, ← List.map_reverse,
    dropWhile_isBlank_map_toLower, ← List.map_reverse]
  rfl

--------------------------------------------------------------------------------
-- All scripts
--------------------------------------------------------------------------------

/-- The marks of punctuation in front of the digits. -/
def isLowMark (c : Char) : Bool :=
  0x20 < c.toNat && c.toNat < 0x30

theorem isLowMark_toLower (c : Char)
    : isLowMark c.toLower = isLowMark c ∧ (isLowMark c = true → c.toLower = c) := by
  rcases Syntax.toLower_cases c with ⟨n, small, rfl⟩ | kept
  · have letters : ∀ n < 26,
        isLowMark (Char.ofNat (65 + n)).toLower = false
        ∧ isLowMark (Char.ofNat (65 + n)) = false := by
      decide
    rw [(letters n small).1, (letters n small).2]
    exact ⟨rfl, fun mark => absurd mark Bool.false_ne_true⟩
  · rw [kept]
    exact ⟨rfl, fun _ => rfl⟩

/-- No capital beyond the first 128 characters has its lower case among the marks. -/
theorem not_isLowMark_lowerChar {c : Char} (beyond : 128 ≤ c.toNat)
    : isLowMark (lowerChar c) = false := by
  have rows : ∀ row ∈ lowercaseRows, 0x30 ≤ row.first + row.offset := by decide +kernel
  have high {code : Nat} (above : 0x30 ≤ code) : isLowMark (Char.ofNat code) = false := by
    by_cases valid : code.isValidChar
    · have same : (Char.ofNat code).toNat = code := by
        rw [Char.ofNat, dif_pos valid]
        rfl
      simp only [isLowMark, same]
      simp [above]
    · simp [Char.ofNat, valid, isLowMark]
  rw [lowerChar, if_neg (by omega)]
  split
  · rename_i row found
    have member := List.mem_of_find?_eq_some found
    have holds := List.find?_some found
    simp only [CaseRow.holds, Bool.and_eq_true, decide_eq_true_eq] at holds
    have above := rows row member
    exact high (by omega)
  · simp [isLowMark]
    omega

theorem isLowMark_lowerChar (c : Char)
    : isLowMark (lowerChar c) = isLowMark c ∧ (isLowMark c = true → lowerChar c = c) := by
  by_cases ascii : c.toNat < 128
  · rw [lowerChar, if_pos ascii]
    exact isLowMark_toLower c
  · have none : isLowMark c = false := by
      simp [isLowMark]
      omega
    rw [not_isLowMark_lowerChar (by omega), none]
    exact ⟨rfl, fun mark => absurd mark Bool.false_ne_true⟩

/-- Lower case leaves the marks of a text as they are, in order. -/
theorem filter_isLowMark_lower (text : List Char)
    : (lower text).filter isLowMark = text.filter isLowMark := by
  have one {small c : Char} {left rest : List Char}
      (same : isLowMark small = isLowMark c ∧ (isLowMark c = true → small = c))
      (later : left.filter isLowMark = rest.filter isLowMark)
      : (small :: left).filter isLowMark = (c :: rest).filter isLowMark := by
    rw [List.filter_cons, List.filter_cons, same.1, later]
    split
    · rename_i mark
      rw [same.2 mark]
    · rfl
  have after (afterCased : Bool)
      : (lowerAfter afterCased text).filter isLowMark = text.filter isLowMark := by
    induction text generalizing afterCased with
    | nil => rfl
    | cons c rest ih =>
      rw [lowerAfter]
      split
      · rename_i sigma
        have none : isLowMark c = false := by simp [isLowMark, sigma]
        refine one ⟨?_, by simp [none]⟩ (ih _)
        rw [none]
        split
        · decide
        · decide
      · split
        · rename_i dotted
          have none : isLowMark c = false := by simp [isLowMark, dotted]
          have accent : isLowMark (Char.ofNat 0x307) = false := by decide
          refine one ⟨by rw [none]; decide, by simp [none]⟩ ?_
          rw [List.filter_cons_of_neg (by simp [accent]), ih]
        · exact one (isLowMark_lowerChar c) (ih _)
  have plain (chars : List Char)
      : (chars.map Char.toLower).filter isLowMark = chars.filter isLowMark := by
    induction chars with
    | nil => rfl
    | cons c rest ih => exact one (isLowMark_toLower c) ih
  rw [lower]
  split
  · exact plain text
  · exact after false

/-- Each character has one in lower case, and the capital dotted I has two. -/
theorem length_lower (text : List Char)
    : (lower text).length = text.length + text.count '\u0130' := by
  have after (afterCased : Bool)
      : (lowerAfter afterCased text).length = text.length + text.count '\u0130' := by
    induction text generalizing afterCased with
    | nil => rfl
    | cons c rest ih =>
      rw [lowerAfter]
      split
      · rename_i sigma
        have other : c ≠ '\u0130' := by
          rintro rfl
          exact absurd sigma (by decide)
        rw [List.length_cons, ih, List.count_cons_of_ne other, List.length_cons]
        omega
      · split
        · rename_i dotted
          have same : c = '\u0130' := Syntax.char_eq_iff.mpr dotted
          rw [List.length_cons, List.length_cons, ih, same, List.count_cons_self, List.length_cons]
          omega
        · rename_i dotted
          have other : c ≠ '\u0130' := fun same => dotted (congrArg Char.toNat same)
          rw [List.length_cons, ih, List.count_cons_of_ne other, List.length_cons]
          omega
  rw [lower]
  split
  · rename_i ascii
    have none : text.count '\u0130' = 0 := by
      apply List.count_eq_zero.mpr
      intro member
      exact absurd (List.all_eq_true.mp ascii _ member) (by decide)
    rw [List.length_map, none, Nat.add_zero]
  · exact after false

/-- Characters of the first 128 are put in lower case one by one, whatever follows. -/
theorem exists_lower_append {front : List Char} (ascii : IsAscii front) (rest : List Char)
    : ∃ after,
        lower (front ++ rest) = front.map Char.toLower ++ after
        ∧ (after = [] ↔ rest = []) := by
  have behind (afterCased : Bool)
      : ∃ after,
          lowerAfter afterCased (front ++ rest) = front.map Char.toLower ++ after
          ∧ (after = [] ↔ rest = []) := by
    induction front generalizing afterCased with
    | nil =>
      refine ⟨lowerAfter afterCased rest, rfl, ?_⟩
      cases rest with
      | nil => simp [lowerAfter]
      | cons c others =>
        rw [lowerAfter]
        split
        · simp
        · split <;> simp
    | cons c others ih =>
      rw [IsAscii, List.forall_mem_cons] at ascii
      have own : lowerChar c = c.toLower := if_pos ascii.1
      rw [List.cons_append, lowerAfter, if_neg (by omega), if_neg (by omega), own]
      obtain ⟨after, same, some⟩ := ih ascii.2 _
      exact ⟨after, congrArg _ same, some⟩
  rw [lower]
  split
  · exact ⟨rest.map Char.toLower, List.map_append, by simp⟩
  · exact behind false

end CriticalCss.Text
