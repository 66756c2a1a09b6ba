import CriticalCss.Proofs.Text.Cutting
import CriticalCss.Text.Commas

/-! Commas outside of brackets, and the pieces between them. A text falls into one piece more than
it has such commas. Texts that are joined by commas are found again if none of them has one of its
own and each but the last closes the brackets that it opens.
-/

namespace CriticalCss.Text

--------------------------------------------------------------------------------
-- Depth of brackets
--------------------------------------------------------------------------------

theorem depthAfter_mono {depth deeper : Nat} (below : depth ≤ deeper) (c : Char)
    : depthAfter depth c ≤ depthAfter deeper c := by
  unfold depthAfter
  split
  · omega
  · split
    · omega
    · exact below

theorem foldl_depthAfter_mono {depth deeper : Nat} (below : depth ≤ deeper) (text : List Char)
    : text.foldl depthAfter depth ≤ text.foldl depthAfter deeper := by
  induction text generalizing depth deeper with
  | nil => exact below
  | cons c rest ih => exact ih (depthAfter_mono below c)

/-- Every bracket of the text is closed in it. -/
def IsBalanced (text : List Char) : Prop :=
  ∀ depth, text.foldl depthAfter depth = depth

theorem IsBalanced.append {front rest : List Char} (first : IsBalanced front)
    (second : IsBalanced rest)
    : IsBalanced (front ++ rest) := by
  intro depth
  rw [List.foldl_append, first, second]

/-- A text without brackets is balanced. -/
theorem isBalanced_of_plain {text : List Char} (plain : ∀ c ∈ text, c ≠ '(' ∧ c ≠ ')')
    : IsBalanced text := by
  intro depth
  induction text with
  | nil => rfl
  | cons c rest ih =>
    rw [List.forall_mem_cons] at plain
    rw [List.foldl_cons, depthAfter, if_neg plain.1.1, if_neg plain.1.2, ih plain.2]

theorem IsBalanced.inBrackets {text : List Char} (inside : IsBalanced text)
    : IsBalanced ('(' :: (text ++ [')'])) := by
  intro depth
  rw [List.foldl_cons, List.foldl_append, inside]
  rfl

--------------------------------------------------------------------------------
-- Commas outside brackets
--------------------------------------------------------------------------------

/-- The number of commas of a text outside of brackets, where `depth` brackets are open at its
start.
-/
def outerCommas (depth : Nat) : List Char → Nat
  | [] => 0
  | c :: rest =>
    (if c = ',' ∧ depth = 0 then 1 else 0) + outerCommas (depthAfter depth c) rest

theorem outerCommas_append (depth : Nat) (front rest : List Char)
    : outerCommas depth (front ++ rest)
      = outerCommas depth front + outerCommas (front.foldl depthAfter depth) rest := by
  induction front generalizing depth with
  | nil => simp [outerCommas]
  | cons c others ih =>
    simp only [List.cons_append, outerCommas, ih, List.foldl_cons, Nat.add_assoc]

/-- With more brackets open around it a text has no more commas outside of brackets. -/
theorem outerCommas_anti {depth deeper : Nat} (below : depth ≤ deeper) (text : List Char)
    : outerCommas deeper text ≤ outerCommas depth text := by
  induction text generalizing depth deeper with
  | nil => exact Nat.le_refl _
  | cons c rest ih =>
    have later := ih (depthAfter_mono below c)
    simp only [outerCommas]
    split
    · rename_i outside
      rw [if_pos ⟨outside.1, by omega⟩]
      omega
    · omega

theorem outerCommas_of_free {text : List Char} (free : ',' ∉ text) (depth : Nat)
    : outerCommas depth text = 0 := by
  induction text generalizing depth with
  | nil => rfl
  | cons c rest ih =>
    rw [List.mem_cons, not_or] at free
    rw [outerCommas, if_neg fun outside => free.1 outside.1.symm, ih free.2]

/-- The characters that decide where a text is cut at commas. -/
def isStructural (c : Char) : Bool :=
  c == ',' || c == '(' || c == ')'

/-- All other characters of a text have no say in its depth. -/
theorem foldl_depthAfter_filter (text : List Char) (depth : Nat)
    : (text.filter isStructural).foldl depthAfter depth = text.foldl depthAfter depth := by
  induction text generalizing depth with
  | nil => rfl
  | cons c rest ih =>
    cases structural : isStructural c with
    | true => rw [List.filter_cons_of_pos structural, List.foldl_cons, ih, List.foldl_cons]
    | false =>
      have same : depthAfter depth c = depth := by
        simp only [isStructural, Bool.or_eq_false_iff, beq_eq_false_iff_ne] at structural
        rw [depthAfter, if_neg structural.1.2, if_neg structural.2]
      rw [List.filter_cons_of_neg (by simp [structural]), ih, List.foldl_cons, same]

/-- All other characters of a text have no say in its commas. -/
theorem outerCommas_filter (text : List Char) (depth : Nat)
    : outerCommas depth (text.filter isStructural) = outerCommas depth text := by
  induction text generalizing depth with
  | nil => rfl
  | cons c rest ih =>
    cases structural : isStructural c with
    | true => rw [List.filter_cons_of_pos structural, outerCommas, ih, outerCommas]
    | false =>
      simp only [isStructural, Bool.or_eq_false_iff, beq_eq_false_iff_ne] at structural
      have same : depthAfter depth c = depth := by
        rw [depthAfter, if_neg structural.1.2, if_neg structural.2]
      rw [List.filter_cons_of_neg (by simp [isStructural, structural]), ih, outerCommas, same,
        if_neg fun outside => structural.1.1 outside.1, Nat.zero_add]

--------------------------------------------------------------------------------
-- Pieces
--------------------------------------------------------------------------------

theorem splitCommasFrom_cons (depth : Nat) (c : Char) (rest : List Char)
    : splitCommasFrom depth (c :: rest)
      = if c = ',' ∧ depth = 0 then [] :: splitCommasFrom (depthAfter depth c) rest
        else consFirst c (splitCommasFrom (depthAfter depth c) rest) := by
  simp [splitCommasFrom]

/-- The first piece of a text has no comma outside of brackets, and no later piece has one; there is
one piece more than there are such commas. By induction on the text.
-/
theorem exists_pieces (depth : Nat) (text : List Char)
    : ∃ first others,
        splitCommasFrom depth text = first :: others
        ∧ outerCommas depth first = 0
        ∧ (∀ piece ∈ others, outerCommas 0 piece = 0)
        ∧ others.length = outerCommas depth text := by
  induction text generalizing depth with
  | nil => exact ⟨[], [], rfl, rfl, by simp, rfl⟩
  | cons c rest ih =>
    obtain ⟨first, others, pieces, whole, wholes, count⟩ := ih (depthAfter depth c)
    rw [splitCommasFrom_cons, pieces, outerCommas]
    by_cases outside : c = ',' ∧ depth = 0
    · obtain ⟨rfl, rfl⟩ := outside
      refine ⟨[], first :: others, rfl, rfl, ?_, ?_⟩
      · intro piece member
        rcases List.mem_cons.mp member with rfl | later
        · exact whole
        · exact wholes piece later
      · rw [List.length_cons, count, if_pos ⟨rfl, rfl⟩, Nat.add_comm]
    · refine ⟨c :: first, others, if_neg outside, ?_, wholes, ?_⟩
      · rw [outerCommas, if_neg outside, whole]
      · rw [count, if_neg outside, Nat.zero_add]

theorem length_splitCommas (text : List Char)
    : (splitCommas text).length = outerCommas 0 text + 1 := by
  obtain ⟨first, others, pieces, _, _, count⟩ := exists_pieces 0 text
  rw [splitCommas, pieces, List.length_cons, count]

theorem outerCommas_of_mem_splitCommas {text piece : List Char}
    (member : piece ∈ splitCommas text)
    : outerCommas 0 piece = 0 := by
  obtain ⟨first, others, pieces, whole, wholes, _⟩ := exists_pieces 0 text
  rw [splitCommas, pieces] at member
  rcases List.mem_cons.mp member with rfl | later
  · exact whole
  · exact wholes piece later

/-- A comma behind a text that closes its brackets separates its pieces from those that follow. -/
theorem splitCommasFrom_append {depth : Nat} {front : List Char}
    (closed : front.foldl depthAfter depth = 0) (rest : List Char)
    : splitCommasFrom depth (front ++ ',' :: rest)
      = splitCommasFrom depth front ++ splitCommas rest := by
  induction front generalizing depth with
  | nil =>
    obtain rfl : depth = 0 := closed
    rfl
  | cons c others ih =>
    rw [List.cons_append, splitCommasFrom_cons, splitCommasFrom_cons, ih closed]
    split
    · rfl
    · obtain ⟨first, more, pieces, _⟩ := exists_pieces (depthAfter depth c) others
      rw [pieces]
      rfl

/-- A text without a comma outside of brackets is in one piece. -/
theorem splitCommasFrom_of_whole {depth : Nat} {text : List Char}
    (whole : outerCommas depth text = 0)
    : splitCommasFrom depth text = [text] := by
  induction text generalizing depth with
  | nil => rfl
  | cons c rest ih =>
    simp only [outerCommas, Nat.add_eq_zero_iff, ite_eq_right_iff, Nat.one_ne_zero, imp_false]
      at whole
    rw [splitCommasFrom_cons, if_neg whole.1, ih whole.2]
    rfl

/-- The pieces lack just the commas that cut. -/
theorem count_flatten_splitCommasFrom (depth : Nat) (text : List Char)
    : (splitCommasFrom depth text).flatten.count ',' + outerCommas depth text = text.count ',' := by
  induction text generalizing depth with
  | nil => rfl
  | cons c rest ih =>
    have later := ih (depthAfter depth c)
    rw [splitCommasFrom_cons, outerCommas]
    split
    · rename_i outside
      rw [outside.1] at later ⊢
      rw [List.flatten_cons, List.nil_append, List.count_cons_self]
      omega
    · obtain ⟨first, others, pieces, _⟩ := exists_pieces (depthAfter depth c) rest
      rw [pieces] at later ⊢
      rw [consFirst, List.flatten_cons, List.cons_append, ← List.flatten_cons, List.count_cons,
        List.count_cons]
      omega

/-- A text that is cut has a comma that a piece of it does not have. -/
theorem count_lt_of_mem_splitCommas {text piece : List Char} (cut : outerCommas 0 text ≠ 0)
    (member : piece ∈ splitCommas text)
    : piece.count ',' < text.count ',' := by
  have most : piece.count ',' ≤ (splitCommas text).flatten.count ',' :=
    (List.sublist_flatten_of_mem member).count_le ','
  have total : (splitCommas text).flatten.count ',' + outerCommas 0 text = text.count ',' :=
    count_flatten_splitCommasFrom 0 text
  omega

--------------------------------------------------------------------------------
-- Joined texts
--------------------------------------------------------------------------------

section Joined

variable {pieces : List (List Char)}

theorem intercalate_cons {α : Type} (mark first second : List α) (others : List (List α))
    : mark.intercalate (first :: second :: others)
      = first ++ (mark ++ mark.intercalate (second :: others)) := by
  simp [List.intercalate]

/-- Joined texts without such commas of their own have fewer than there are texts. -/
theorem outerCommas_intercalate_lt (some : pieces ≠ [])
    (whole : ∀ piece ∈ pieces, outerCommas 0 piece = 0) (depth : Nat)
    : outerCommas depth ([','].intercalate pieces) < pieces.length := by
  induction pieces generalizing depth with
  | nil => exact absurd rfl some
  | cons piece rest ih =>
    rw [List.forall_mem_cons] at whole
    have own : outerCommas depth piece = 0 :=
      Nat.le_zero.mp (whole.1 ▸ outerCommas_anti (Nat.zero_le depth) piece)
    cases rest with
    | nil => simp [List.intercalate, own]
    | cons next others =>
      have later := ih (by simp) whole.2 (depthAfter (piece.foldl depthAfter depth) ',')
      rw [intercalate_cons, outerCommas_append, own, List.singleton_append, outerCommas,
        List.length_cons]
      split
      · omega
      · omega

/-- As many commas as there can be between joined texts are there only if each text closes its
brackets, the last one aside.
-/
theorem closed_of_outerCommas_intercalate (whole : ∀ piece ∈ pieces, outerCommas 0 piece = 0)
    (full : outerCommas 0 ([','].intercalate pieces) + 1 = pieces.length)
    : ∀ piece ∈ pieces.dropLast, piece.foldl depthAfter 0 = 0 := by
  induction pieces with
  | nil => simp
  | cons piece rest ih =>
    rw [List.forall_mem_cons] at whole
    cases rest with
    | nil => simp
    | cons next others =>
      have bound := outerCommas_intercalate_lt (by simp) whole.2
        (depthAfter (piece.foldl depthAfter 0) ',')
      rw [intercalate_cons, outerCommas_append, whole.1, List.singleton_append, outerCommas,
        List.length_cons] at full
      have closed : piece.foldl depthAfter 0 = 0 := by
        by_contra open'
        rw [if_neg fun outside => open' outside.2] at full
        omega
      rw [closed, if_pos ⟨rfl, rfl⟩] at full
      rw [List.dropLast_cons_cons, List.forall_mem_cons]
      exact ⟨closed, ih whole.2 (by rw [show depthAfter 0 ',' = 0 from rfl] at full; omega)⟩

/-- Joined texts, each but the last closed, are cut one by one. -/
theorem splitCommas_intercalate_flatMap (some : pieces ≠ [])
    (closed : ∀ piece ∈ pieces.dropLast, piece.foldl depthAfter 0 = 0)
    : splitCommas ([','].intercalate pieces) = pieces.flatMap splitCommas := by
  induction pieces with
  | nil => exact absurd rfl some
  | cons piece rest ih =>
    cases rest with
    | nil => simp [List.intercalate]
    | cons next others =>
      rw [List.dropLast_cons_cons, List.forall_mem_cons] at closed
      rw [intercalate_cons, List.singleton_append, splitCommas, splitCommasFrom_append closed.1,
        ih (by simp) closed.2]
      rfl

/-- Texts without such commas of their own are cut into themselves. -/
theorem flatMap_splitCommas (whole : ∀ piece ∈ pieces, outerCommas 0 piece = 0)
    : pieces.flatMap splitCommas = pieces := by
  induction pieces with
  | nil => rfl
  | cons piece rest ih =>
    rw [List.forall_mem_cons] at whole
    rw [List.flatMap_cons, splitCommas, splitCommasFrom_of_whole whole.1, ih whole.2]
    rfl

/-- Joined texts without such commas of their own, each but the last closed, are the pieces. -/
theorem splitCommas_intercalate_of_closed (some : pieces ≠ [])
    (whole : ∀ piece ∈ pieces, outerCommas 0 piece = 0)
    (closed : ∀ piece ∈ pieces.dropLast, piece.foldl depthAfter 0 = 0)
    : splitCommas ([','].intercalate pieces) = pieces := by
  rw [splitCommas_intercalate_flatMap some closed, flatMap_splitCommas whole]

/-- A closed text in front of others may have commas of its own. -/
theorem splitCommas_intercalate_cons {first : List Char} (closed : first.foldl depthAfter 0 = 0)
    (whole : ∀ piece ∈ pieces, outerCommas 0 piece = 0)
    (closes : ∀ piece ∈ pieces.dropLast, piece.foldl depthAfter 0 = 0)
    : splitCommas ([','].intercalate (first :: pieces)) = splitCommas first ++ pieces := by
  have all : ∀ piece ∈ (first :: pieces).dropLast, piece.foldl depthAfter 0 = 0 := by
    cases pieces with
    | nil => simp
    | cons next others =>
      rw [List.dropLast_cons_cons, List.forall_mem_cons]
      exact ⟨closed, closes⟩
  rw [splitCommas_intercalate_flatMap (by simp) all, List.flatMap_cons, flatMap_splitCommas whole]

/-- Balanced texts without commas are found again between the commas that join them. -/
theorem splitCommas_intercalate (some : pieces ≠ [])
    (whole : ∀ piece ∈ pieces, ',' ∉ piece ∧ IsBalanced piece)
    : splitCommas ([','].intercalate pieces) = pieces := by
  refine splitCommas_intercalate_of_closed some ?_ ?_
  · intro piece member
    exact outerCommas_of_free (whole piece member).1 0
  · intro piece member
    exact (whole piece ((List.dropLast_sublist _).mem member)).2 0

end Joined

end CriticalCss.Text
