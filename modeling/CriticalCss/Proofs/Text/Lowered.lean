import CriticalCss.Proofs.Text.Folding

/-! Lower case of a text that is put together from parts. What a character becomes depends on the
text around it only as to which of the two small sigmas it is, so that each part of the text has its
own part of the lower case. Blanks and marks are found there again, and no other ones; a part that
is plain in lower case was so before, in letters of any case.
-/

namespace CriticalCss.Text

/-- What a character can become in lower case. -/
inductive LowerOf : Char → List Char → Prop where
  | single (c : Char) : LowerOf c [lowerChar c]
  | sigma {small : Char} (is : small = 'σ' ∨ small = 'ς') : LowerOf '\u03a3' [small]
  | dotted : LowerOf '\u0130' ['i', '\u0307']

/-- What a text can become in lower case, as part of one text or another. -/
inductive Lowered : List Char → List Char → Prop where
  | nil : Lowered [] []
  | cons {c : Char} {piece rest own : List Char} (first : LowerOf c piece)
      (later : Lowered rest own)
    : Lowered (c :: rest) (piece ++ own)

--------------------------------------------------------------------------------
-- Single characters
--------------------------------------------------------------------------------

/-- A character that no capital from beyond the first 128 turns into, unless it is a blank. -/
def IsFaithful (c : Char) : Prop :=
  (c.toNat < 128 ∧ c ≠ 'i' ∧ c ≠ 'k') ∨ isBlank c = true

instance (c : Char) : Decidable (IsFaithful c) :=
  inferInstanceAs (Decidable (_ ∨ _))

namespace LowerOf

variable {c : Char} {piece : List Char}

theorem ne_nil (lowered : LowerOf c piece) : piece ≠ [] := by
  cases lowered <;> simp

theorem eq_of_ascii (lowered : LowerOf c piece) (ascii : c.toNat < 128) : piece = [c.toLower] := by
  cases lowered with
  | single => rw [lowerChar, if_pos ascii]
  | sigma => exact absurd ascii (by decide)
  | dotted => exact absurd ascii (by decide)

theorem eq_of_isBlank (lowered : LowerOf c piece) (blank : isBlank c = true) : piece = [c] := by
  cases lowered with
  | single => rw [(isBlank_lowerChar c).2 blank]
  | sigma => exact absurd blank (by decide)
  | dotted => exact absurd blank (by decide)

theorem isBlank_of_mem (lowered : LowerOf c piece) (inside : isBlank c = false)
    : ∀ small ∈ piece, isBlank small = false := by
  cases lowered with
  | single => simpa [(isBlank_lowerChar c).1] using inside
  | sigma is =>
    rcases is with rfl | rfl
    · simp [isBlank]
    · simp [isBlank]
  | dotted => simp [isBlank]

theorem isLowMark_of_mem (lowered : LowerOf c piece) (other : isLowMark c = false)
    : ∀ small ∈ piece, isLowMark small = false := by
  cases lowered with
  | single => simpa [(isLowMark_lowerChar c).1] using other
  | sigma is =>
    rcases is with rfl | rfl
    · simp [isLowMark]
    · simp [isLowMark]
  | dotted => simp [isLowMark]

theorem eq_of_isFaithful (lowered : LowerOf c piece) (faithful : ∀ small ∈ piece, IsFaithful small)
    : piece = [c.toLower] := by
  cases lowered with
  | single =>
    by_cases ascii : c.toNat < 128
    · rw [lowerChar, if_pos ascii]
    · have beyond : 128 ≤ c.toNat := Nat.le_of_not_lt ascii
      have own : IsFaithful (lowerChar c) := by simpa using faithful
      rw [toLower_of_beyond beyond]
      rcases own with ⟨low, noI, noK⟩ | blank
      · rcases lowerChar_of_beyond beyond with high | ⟨_, isI⟩ | ⟨_, isK⟩
        · omega
        · exact absurd isI noI
        · exact absurd isK noK
      · rw [eq_of_isBlank_lowerChar beyond blank]
  | sigma is =>
    rcases is with rfl | rfl
    · exact absurd (faithful _ List.mem_cons_self) (by decide)
    · exact absurd (faithful _ List.mem_cons_self) (by decide)
  | dotted => exact absurd (faithful _ List.mem_cons_self) (by decide)

end LowerOf

--------------------------------------------------------------------------------
-- Texts
--------------------------------------------------------------------------------

theorem lowered_lower (text : List Char) : Lowered text (lower text) := by
  have after (afterCased : Bool) : Lowered text (lowerAfter afterCased text) := by
    induction text generalizing afterCased with
    | nil => exact .nil
    | cons c rest ih =>
      rw [lowerAfter]
      split
      · rename_i sigma
        obtain rfl : c = '\u03a3' := Syntax.char_eq_iff.mpr sigma
        split
        · exact .cons (.sigma (.inr rfl)) (ih _)
        · exact .cons (.sigma (.inl rfl)) (ih _)
      · split
        · rename_i dotted
          obtain rfl : c = '\u0130' := Syntax.char_eq_iff.mpr dotted
          exact .cons .dotted (ih _)
        · exact .cons (.single c) (ih _)
  rw [lower]
  split
  · rename_i ascii
    clear after
    induction text with
    | nil => exact .nil
    | cons c rest ih =>
      simp only [List.all_cons, Bool.and_eq_true, decide_eq_true_eq] at ascii
      have own : lowerChar c = c.toLower := if_pos ascii.1
      rw [List.map_cons, ← own]
      exact .cons (.single c) (ih ascii.2)
  · exact after false

namespace Lowered

variable {text own : List Char}

/-- Each part of a text has its own part of the lower case. -/
theorem exists_append {front rest : List Char} (lowered : Lowered (front ++ rest) own)
    : ∃ first later, own = first ++ later ∧ Lowered front first ∧ Lowered rest later := by
  induction front generalizing own with
  | nil => exact ⟨[], own, rfl, .nil, lowered⟩
  | cons c others ih =>
    cases lowered with
    | @cons _ piece _ _ first later =>
      obtain ⟨front, behind, rfl, low, after⟩ := ih later
      exact ⟨piece ++ front, behind, (List.append_assoc _ _ _).symm, .cons first low, after⟩

theorem exists_cons {c : Char} {rest : List Char} (lowered : Lowered (c :: rest) own)
    (ascii : c.toNat < 128)
    : ∃ later, own = c.toLower :: later ∧ Lowered rest later := by
  cases lowered with
  | cons first later =>
    rw [first.eq_of_ascii ascii]
    exact ⟨_, rfl, later⟩

theorem eq_map {change : Char → Char} (lowered : Lowered text own)
    (each : ∀ c ∈ text, ∀ piece, LowerOf c piece → piece = [change c])
    : own = text.map change := by
  induction lowered with
  | nil => rfl
  | cons first _ ih =>
    rw [List.forall_mem_cons] at each
    rw [each.1 _ first, ih each.2]
    rfl

theorem forall_mem {test : Char → Prop} (lowered : Lowered text own)
    (each : ∀ c ∈ text, ∀ piece, LowerOf c piece → ∀ small ∈ piece, test small)
    : ∀ small ∈ own, test small := by
  induction lowered with
  | nil => simp
  | cons first _ ih =>
    rw [List.forall_mem_cons] at each
    exact List.forall_mem_append.mpr ⟨each.1 _ first, ih each.2⟩

theorem eq_of_isAscii (lowered : Lowered text own) (ascii : IsAscii text)
    : own = text.map Char.toLower :=
  lowered.eq_map fun c member _ first => first.eq_of_ascii (ascii c member)

theorem eq_of_isBlank (lowered : Lowered text own) (blank : ∀ c ∈ text, isBlank c = true)
    : own = text :=
  (lowered.eq_map fun c member _ first => first.eq_of_isBlank (blank c member)).trans
    (List.map_id text)

/-- No mark comes up that is not there. -/
theorem not_mem_of_isLowMark (lowered : Lowered text own) {mark : Char}
    (low : isLowMark mark = true) (free : ∀ c ∈ text, isLowMark c = true → c ≠ mark)
    : mark ∉ own := by
  suffices others : ∀ small ∈ own, small ≠ mark from fun member => others mark member rfl
  refine lowered.forall_mem fun c inside piece first small inPiece => ?_
  cases isMark : isLowMark c with
  | true =>
    have ascii : c.toNat < 128 := by
      simp only [isLowMark, Bool.and_eq_true, decide_eq_true_eq] at isMark
      omega
    rw [first.eq_of_ascii ascii, (isLowMark_toLower c).2 isMark, List.mem_singleton] at inPiece
    rw [inPiece]
    exact free c inside isMark
  | false =>
    rintro rfl
    rw [first.isLowMark_of_mem isMark small inPiece] at low
    cases low

/-- A part that holds only faithful characters in lower case is known up to its case. -/
theorem eq_of_isFaithful (lowered : Lowered text own) (faithful : ∀ small ∈ own, IsFaithful small)
    : own = text.map Char.toLower := by
  induction lowered with
  | nil => rfl
  | cons first _ ih =>
    rw [List.forall_mem_append] at faithful
    rw [first.eq_of_isFaithful faithful.1, ih faithful.2]
    rfl

theorem ne_nil (lowered : Lowered text own) (some : text ≠ []) : own ≠ [] := by
  cases lowered with
  | nil => exact some
  | cons first => simp [first.ne_nil]

/-- Where there is nothing to trim, there is nothing to trim in lower case. -/
theorem trim_eq (lowered : Lowered text own) (trimmed : trim text = text) : trim own = own := by
  obtain ⟨start, ends⟩ := isBlank_ends_trim text
  rw [trimmed] at start ends
  refine trim_of_ends ?_ ?_
  · cases lowered with
    | nil => simp
    | cons first =>
      intro small isFirst
      obtain ⟨initial, others, piece⟩ := List.exists_cons_of_ne_nil first.ne_nil
      rw [piece] at isFirst first
      cases isFirst
      exact first.isBlank_of_mem (start _ rfl) _ List.mem_cons_self
  · rcases List.eq_nil_or_concat text with rfl | ⟨front, last, rfl⟩
    · cases lowered
      simp
    · rw [List.concat_eq_append] at lowered ends
      obtain ⟨before, piece, rfl, _, later⟩ := lowered.exists_append
      cases later with
      | cons first none =>
        cases none
        intro small isLast
        rw [List.append_nil, List.getLast?_append_of_ne_nil _ first.ne_nil] at isLast
        exact first.isBlank_of_mem (ends last (by simp)) small (List.mem_of_getLast? isLast)

end Lowered

end CriticalCss.Text
