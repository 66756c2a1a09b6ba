import CriticalCss.Proofs.Stylesheet.Layout
import CriticalCss.Stylesheet.Printer

/-! The text of a layout. Where names need no escape and no text loses a blank at its ends, what is
printed for items is what is written for the components that are laid out for them.
-/

namespace CriticalCss

open Syntax

--------------------------------------------------------------------------------
-- Seams
--------------------------------------------------------------------------------

/-- A kind that runs together with nothing, on either side. -/
structure Syntax.Kind.IsSeam (kind : Kind) : Prop where
  free : ∀ left, runTogether left kind = false
  inert : kind.isInert

theorem isSeam_whitespace : Kind.IsSeam .whitespace :=
  ⟨fun left => by simp [runTogether, Kind.startsWithName, Kind.startsWithNumber, Kind.isMark],
    fun right => by simp [runTogether, Kind.endsInName, Kind.isMark], by decide⟩

theorem isSeam_block : Kind.IsSeam (.block .curly) :=
  ⟨fun left => by simp [runTogether, Kind.startsWithName, Kind.startsWithNumber, Kind.isMark],
    Kind.isInert_block .curly⟩

/-- The marks that a layout puts between its pieces are seams. -/
theorem isSeam_mark {c : Char} (listed : c ∈ [':', ';', ',', '!']) : Kind.IsSeam (.literal [c]) := by
  simp only [List.mem_cons, List.not_mem_nil, or_false] at listed
  rcases listed with rfl | rfl | rfl | rfl
  all_goals
    exact ⟨fun left => by
        simp [runTogether, Kind.startsWithName, Kind.startsWithNumber, Kind.isMark],
      fun right => by simp [runTogether, Kind.endsInName, Kind.isMark], by decide⟩

/-- Components whose tokens can be read back. -/
def isReadable (components : List Component) : Prop :=
  Legible (tokensOf components)

theorem isReadable_append {left right : List Component}
    : isReadable (left ++ right) ↔ isReadable left ∧ isReadable right := by
  rw [isReadable, tokensOf_append, Legible.append_iff]
  rfl

theorem isReadable_cons {component : Component} {rest : List Component}
    : isReadable (component :: rest) ↔ isReadable [component] ∧ isReadable rest := by
  rw [← isReadable_append, List.singleton_append]

theorem isReadable_nil : isReadable [] :=
  ⟨by simp [tokensOf], by simp [tokensOf]⟩

/-- Behind what can be read back no backslash is kept from what follows. -/
theorem lastKind_of_isReadable {components : List Component} (readable : isReadable components)
    : (lastKind none components).all (!·.isMark '\\') = true := by
  rcases List.eq_nil_or_concat components with rfl | ⟨others, last, rfl⟩
  · rfl
  · rw [List.concat_eq_append] at readable ⊢
    have kind : lastKind none (others ++ [last]) = some last.kind := by simp [lastKind]
    have own : isReadable [last] := (isReadable_append.mp readable).2
    rw [kind, Option.all_some]
    cases last with
    | atom line found =>
      cases found with
      | literal text =>
        have legible := own.legible (.atom (.literal text)) List.mem_cons_self
        simp only [Token.isLegible, bne_iff_ne, ne_eq] at legible
        simpa [Component.kind, Atom.kind, Kind.isMark] using legible
      | _ => simp [Component.kind, Atom.kind, Kind.isMark]
    | block line bracket content => simp [Component.kind, Kind.isMark]
    | function line name arguments => simp [Component.kind, Kind.isMark]

/-- At a seam a text is written in two parts. -/
theorem writeAll_seam {before : List Component} {seam : Component} (readable : isReadable before)
    (isSeam : seam.kind.IsSeam) (rest : List Component)
    : writeAll (before ++ seam :: rest)
      = writeAll before ++ (writeComponent seam ++ writeAll rest) := by
  have noBackslash := lastKind_of_isReadable readable
  have noGap : gapBetween (lastKind none before) seam = [] := by
    cases left : lastKind none before with
    | none => rfl
    | some kind =>
      rw [left, Option.all_some, Bool.not_eq_true'] at noBackslash
      rw [gapBetween_some seam noBackslash, isSeam.free, if_neg Bool.false_ne_true]
  rw [writeAll, writeAfter_append, writeAfter, noGap, writeAfter_inert isSeam.inert]
  rfl

theorem writeAll_blank (text : List Char) (rest : List Component)
    : writeAll (blank text :: rest) = text ++ writeAll rest := by
  have isSeam : (blank text).kind.IsSeam := isSeam_whitespace
  exact writeAll_seam isReadable_nil isSeam rest

theorem writeAll_concat_blank {before : List Component} (readable : isReadable before)
    (text : List Char)
    : writeAll (before ++ [blank text]) = writeAll before ++ text := by
  have isSeam : (blank text).kind.IsSeam := isSeam_whitespace
  have whole := writeAll_seam readable isSeam []
  rw [whole, writeAll, writeAll, writeAfter, List.append_nil]
  rfl

theorem writeAll_mark {before : List Component} (readable : isReadable before) {c : Char}
    (listed : c ∈ [':', ';', ',', '!']) (rest : List Component)
    : writeAll (before ++ mark c :: rest) = writeAll before ++ c :: writeAll rest := by
  have isSeam : (mark c).kind.IsSeam := isSeam_mark listed
  exact writeAll_seam readable isSeam rest

--------------------------------------------------------------------------------
-- Declarations
--------------------------------------------------------------------------------

/-- The blanks in front of a line at the given depth. -/
def margin (depth : Nat) : List Char :=
  List.replicate (2 * depth) ' '

theorem toList_indent (depth : Nat) : (indent depth).toList = margin depth :=
  String.toList_ofList

/-- Does the text of the components lose nothing when blanks at its ends are cut off? -/
def isFaithful (components : List Component) : Bool :=
  Text.trim (writeAll (piece components)) == writeAll (piece components)

theorem toList_compactText {components : List Component} (faithful : isFaithful components = true)
    : (compactText components).toList = writeAll (piece components) := by
  rw [compactText_eq, String.toList_ofList]
  exact beq_iff_eq.mp faithful

/-- Can the name be written without escapes? -/
def isUnescaped (name : List Char) : Bool :=
  writeIdent name == name

/-- Is the declaration printed as the components that are laid out for it? -/
def Setting.isFaithful (setting : Setting) : Bool :=
  isUnescaped (propertyName setting.name).toList && CriticalCss.isFaithful setting.value

theorem writeAll_importance {before : List Component} (readable : isReadable before)
    (word : isReadable [.atom 0 (.ident "important".toList)])
    : writeAll (before ++ (importance ++ [mark ';'])) = writeAll before ++ "!important;".toList := by
  have split
      : before ++ (importance ++ [mark ';'])
        = before ++ mark '!' :: ([.atom 0 (.ident "important".toList)] ++ mark ';' :: []) :=
    rfl
  rw [split, writeAll_mark readable (by decide), writeAll_mark word (by decide)]
  rfl

section Settings

variable {setting : Setting}

theorem isReadable_piece_value (readable : isReadable setting.padded)
    : isReadable (piece setting.value) := by
  rw [Setting.padded] at readable
  split at readable
  · rename_i nothing
    simp only [Bool.and_eq_true, List.isEmpty_iff] at nothing
    rw [nothing.1]
    exact isReadable_nil
  · exact (isReadable_append.mp (isReadable_cons.mp readable).2).1

/-- What is laid out for a value is written with a space in front of it. -/
theorem writeAll_padded (readable : isReadable setting.padded)
    : writeAll setting.padded
      = ' ' :: (writeAll (piece setting.value) ++ if setting.important then [' '] else []) := by
  have inside := isReadable_piece_value readable
  rw [Setting.padded]
  split
  · rename_i nothing
    simp only [Bool.and_eq_true, List.isEmpty_iff] at nothing
    rw [nothing.1, nothing.2, writeAll_blank]
    rfl
  · rw [writeAll_blank]
    split
    · rw [writeAll_concat_blank inside]
      rfl
    · rw [List.append_nil, List.append_nil]
      rfl

/-- The text of a declaration that is laid out. -/
theorem writeAll_setting (readable : isReadable setting.layout)
    : writeAll setting.layout
      = writeIdent (propertyName setting.name).toList
        ++ (": ".toList ++ (writeAll (piece setting.value)
          ++ (if setting.important then " !important;" else ";").toList)) := by
  have split
      : setting.layout
        = [.atom 0 (.ident (propertyName setting.name).toList)] ++ mark ':'
            :: (setting.padded ++ ((if setting.important then importance else []) ++ [mark ';'])) :=
    rfl
  rw [split, isReadable_append] at readable
  obtain ⟨named, behind⟩ := readable
  obtain ⟨padded, behind⟩ := isReadable_append.mp (isReadable_cons.mp behind).2
  have marked := (isReadable_append.mp behind).1
  have name
      : writeAll [.atom 0 (.ident (propertyName setting.name).toList)]
        = writeIdent (propertyName setting.name).toList :=
    List.append_nil _
  rw [split, writeAll_mark named (by decide), name]
  cases important : setting.important with
  | false =>
    rw [if_neg Bool.false_ne_true, if_neg Bool.false_ne_true, List.nil_append,
      writeAll_mark padded (by decide), writeAll_padded padded, important]
    simp [writeAll, writeAfter]
  | true =>
    rw [important, if_pos rfl] at marked
    have word : isReadable [.atom 0 (.ident "important".toList)] := (isReadable_cons.mp marked).2
    rw [if_pos rfl, if_pos rfl, writeAll_importance padded word, writeAll_padded padded, important,
      if_pos rfl, List.cons_append, List.append_assoc]
    rfl

/-- A declaration is printed as it is laid out. -/
theorem line_setting (faithful : setting.isFaithful = true) (readable : isReadable setting.layout)
    (depth : Nat)
    : ∃ line,
        setting.declaration.line depth = .ok line
        ∧ line.toList = margin depth ++ writeAll setting.layout := by
  rw [Setting.isFaithful, Bool.and_eq_true] at faithful
  obtain ⟨unescaped, value⟩ := faithful
  have named : (propertyName setting.name).toList ≠ [] :=
    (readable.formed (.atom (.ident _)) List.mem_cons_self).1
  have filled : (propertyName setting.name).isEmpty = false := by
    rw [← Bool.not_eq_true, String.isEmpty_iff, ← String.toList_eq_nil_iff]
    exact named
  refine ⟨indent depth ++ propertyName setting.name ++ ": " ++ compactText setting.value
    ++ (if setting.important then " !important;" else ";"), ?_, ?_⟩
  · rw [Setting.declaration, Declaration.line, filled, if_neg Bool.false_ne_true]
  · rw [writeAll_setting readable, beq_iff_eq.mp unescaped]
    simp only [String.toList_append, toList_indent, toList_compactText value, List.append_assoc]

end Settings

--------------------------------------------------------------------------------
-- Blocks
--------------------------------------------------------------------------------

/-- The text of lines, each with its line end. -/
def linesText (lines : List String) : List Char :=
  lines.flatMap fun line => line.toList ++ ['\n']

theorem linesText_cons (line : String) (rest : List String)
    : linesText (line :: rest) = line.toList ++ '\n' :: linesText rest := by
  simp [linesText]

theorem linesText_append (left right : List String)
    : linesText (left ++ right) = linesText left ++ linesText right := by
  simp [linesText]

/-- In front of whitespace a text is written in two parts. -/
theorem writeAll_append_blank {before : List Component} (readable : isReadable before)
    (text : List Char) (more : List Component)
    : writeAll (before ++ blank text :: more) = writeAll before ++ writeAll (blank text :: more) := by
  have isSeam : (blank text).kind.IsSeam := isSeam_whitespace
  rw [writeAll_seam readable isSeam, writeAll_blank]
  rfl

theorem writeAll_block {before : List Component} (readable : isReadable before)
    (content : List Component)
    : writeAll (before ++ [blank [' '], .block 0 .curly content])
      = writeAll before ++ (" \x7b".toList ++ (writeAll content ++ ['\x7d'])) := by
  have block : writeAll [.block 0 .curly content] = '\x7b' :: (writeAll content ++ ['\x7d']) :=
    List.append_nil _
  rw [writeAll_append_blank readable, writeAll_blank, block]
  rfl

/-- The lines of a block are its layout, but for the line ends, which stand behind the lines and not
in front of them. -/
theorem linesText_blockLines {depth : Nat} {body : List String} {content : List Component}
    (same : '\n' :: (linesText body ++ margin depth) = writeAll content) (head : String)
    : linesText (blockLines depth head body)
      = head.toList ++ (" \x7b".toList ++ (writeAll content ++ "\x7d\n".toList)) := by
  rw [blockLines, linesText_append, linesText_cons, ← same]
  simp [linesText, toList_indent]

theorem settingsLayout_starts (depth : Nat) (settings : List Setting)
    : ∃ text more, settingsLayout depth settings = blank text :: more := by
  cases settings with
  | nil => exact ⟨_, _, rfl⟩
  | cons setting rest => exact ⟨_, _, settingsLayout_cons depth setting rest⟩

/-- Declarations are printed as they are laid out. -/
theorem declarationLines_settings (depth : Nat) {settings : List Setting}
    (faithful : ∀ setting ∈ settings, setting.isFaithful = true)
    (readable : isReadable (settingsLayout depth settings))
    : ∃ lines,
        declarationLines (depth + 1) (settings.map Setting.declaration) = .ok lines
        ∧ '\n' :: (linesText lines ++ margin depth) = writeAll (settingsLayout depth settings) := by
  induction settings with
  | nil =>
    refine ⟨[], rfl, ?_⟩
    rw [settingsLayout, List.flatMap_nil, List.nil_append, lineBreak, writeAll_blank]
    exact (List.append_nil _).symm
  | cons setting rest ih =>
    rw [settingsLayout_cons, isReadable_cons, isReadable_append] at readable
    obtain ⟨-, own, others⟩ := readable
    obtain ⟨line, printed, text⟩ := line_setting (faithful setting List.mem_cons_self) own (depth + 1)
    obtain ⟨lines, printedOthers, texts⟩ :=
      ih (fun setting member => faithful setting (List.mem_cons_of_mem _ member)) others
    obtain ⟨blanks, more, starts⟩ := settingsLayout_starts depth rest
    refine ⟨line :: lines, ?_, ?_⟩
    · rw [declarationLines] at printedOthers ⊢
      rw [List.map_cons, List.mapM_cons, printed, printedOthers]
      rfl
    · rw [settingsLayout_cons, lineBreak, writeAll_blank, starts, writeAll_append_blank own, ← starts,
        ← texts, linesText_cons, text]
      simp [margin]

--------------------------------------------------------------------------------
-- Rules
--------------------------------------------------------------------------------

/-- Selectors are printed as they are laid out. -/
theorem toList_intercalate_selectors {selectors : List (List Component)}
    (faithful : ∀ group ∈ selectors, isFaithful group = true)
    (readable : isReadable (selectorsLayout selectors))
    : (", ".intercalate (selectors.map compactText)).toList
      = writeAll (selectorsLayout selectors) := by
  induction selectors with
  | nil => rfl
  | cons group rest ih =>
    have own := toList_compactText (faithful group List.mem_cons_self)
    cases rest with
    | nil => simpa [selectorsLayout] using own
    | cons next others =>
      rw [selectorsLayout_cons_cons, isReadable_append] at readable
      obtain ⟨first, behind⟩ := readable
      have later := ih (fun group member => faithful group (List.mem_cons_of_mem _ member))
        (isReadable_cons.mp (isReadable_cons.mp behind).2).2
      rw [selectorsLayout_cons_cons, writeAll_mark first (by decide), writeAll_blank, ← later, ← own]
      simp

/-- Does nothing in front of the prelude belong to the name of the at-rule? -/
def isLoose (prelude : List Component) : Bool :=
  !prelude.head?.any fun component => runTogether .atKeyword component.kind

theorem writeAll_atKeyword {prelude : List Component} (loose : isLoose prelude = true)
    (keyword : List Char)
    : writeAll (.atom 0 (.atKeyword keyword) :: prelude)
      = '@' :: (writeIdent keyword ++ writeAll prelude) := by
  have noGap : writeAfter (some .atKeyword) prelude = writeAfter none prelude := by
    cases prelude with
    | nil => rfl
    | cons first more =>
      simp only [isLoose, List.head?_cons, Option.any_some, Bool.not_eq_true'] at loose
      rw [writeAfter, writeAfter, gapBetween_some first (by decide), loose, if_neg Bool.false_ne_true]
      rfl
  exact congrArg (fun text => '@' :: (writeIdent keyword ++ text)) noGap

theorem toList_verbatimText (keyword : List Char) (prelude : List Component)
    (content : Option (List Component))
    : ∃ between last,
        (verbatimText keyword prelude content).toList = '@' :: (between ++ [last])
        ∧ Text.isBlank last = false := by
  cases content with
  | none =>
    refine ⟨writeIdent keyword ++ writeAll prelude, ';', ?_, by decide⟩
    simp [verbatimText]
  | some content =>
    refine ⟨writeIdent keyword ++ writeAll prelude ++ '\x7b' :: writeAll content, '\x7d', ?_,
      by decide⟩
    simp [verbatimText]

/-- An at-rule that is kept as it was written is printed as it is laid out. -/
theorem trim_verbatimText {keyword : List Char} {prelude : List Component}
    {content : Option (List Component)} (loose : isLoose prelude = true) (depth : Nat)
    (readable : isReadable ((Item.verbatim keyword prelude content).layout depth))
    : (Text.trimString (verbatimText keyword prelude content)).toList
      = writeAll ((Item.verbatim keyword prelude content).layout depth) := by
  obtain ⟨between, last, text, noBlank⟩ := toList_verbatimText keyword prelude content
  have whole
      : (Text.trimString (verbatimText keyword prelude content)).toList
        = (verbatimText keyword prelude content).toList := by
    rw [Text.trimString, String.toList_ofList, text]
    refine Text.trim_of_ends ?_ ?_
    · rintro _ ⟨⟩
      decide
    · rw [← List.cons_append, List.getLast?_concat]
      rintro _ ⟨⟩
      exact noBlank
  rw [whole]
  cases content with
  | none =>
    rw [Item.layout, ← List.cons_append, isReadable_append] at readable
    rw [Item.layout, ← List.cons_append, writeAll_mark readable.1 (by decide),
      writeAll_atKeyword loose]
    simp [verbatimText, writeAll, writeAfter]
  | some content =>
    rw [Item.layout, ← List.cons_append, isReadable_append] at readable
    have isSeam : (Component.block 0 .curly content).kind.IsSeam := isSeam_block
    rw [Item.layout, ← List.cons_append, writeAll_seam readable.1 isSeam, writeAll_atKeyword loose]
    simp [verbatimText, writeAll, writeAfter, writeComponent, openingChar, closingChar]

theorem writeComponent_ne_nil {component : Component} (readable : isReadable [component])
    : writeComponent component ≠ [] := by
  cases component with
  | atom line found =>
    by_cases unmatched : ∃ bracket, found = .flaw (.unmatched bracket)
    · obtain ⟨bracket, rfl⟩ := unmatched
      exact List.cons_ne_nil _ _
    · have own : .atom found ∈ tokensOf [.atom line found] := by
        rw [tokensOf, tokens_atom fun bracket same => unmatched ⟨bracket, same⟩]
        exact List.mem_cons_self
      obtain ⟨c, more, text⟩ := Token.exists_text (readable.formed _ own) (readable.legible _ own)
      intro nothing
      exact absurd (text.symm.trans nothing) (List.cons_ne_nil c more)
  | block line bracket content => exact List.cons_ne_nil _ _
  | function line name arguments => simp [writeComponent]

/-- A piece that can be read back is empty only if its text is. -/
theorem isEmpty_compactText {components : List Component} (faithful : isFaithful components = true)
    (readable : isReadable (piece components))
    : (compactText components).isEmpty = (piece components).isEmpty := by
  have text := toList_compactText faithful
  cases found : piece components with
  | nil =>
    rw [found] at text
    exact String.isEmpty_iff.mpr (String.toList_eq_nil_iff.mp text)
  | cons first more =>
    rw [found, isReadable_cons] at readable
    have filled : compactText components ≠ "" := by
      intro nothing
      rw [nothing, found] at text
      have parts : [] = writeComponent first ++ writeAfter first.kind more := text
      exact writeComponent_ne_nil readable.1 (List.append_eq_nil_iff.mp parts.symm).1
    simpa using filled

/-- The name and the prelude of an at-rule are printed as they are laid out. -/
theorem toList_atRuleHead {keyword : List Char} {prelude : List Component}
    (unescaped : isUnescaped (lowerAscii keyword) = true) (faithful : isFaithful prelude = true)
    (readable : isReadable (headLayout keyword prelude)) (depth : Nat)
    : (atRuleHead depth (String.ofList (lowerAscii keyword)) (compactText prelude)).toList
      = margin depth ++ writeAll (headLayout keyword prelude) := by
  rw [headLayout, isReadable_cons] at readable
  obtain ⟨named, behind⟩ := readable
  have name
      : writeAll [.atom 0 (.atKeyword (lowerAscii keyword))] = '@' :: lowerAscii keyword := by
    have written : writeIdent (lowerAscii keyword) = lowerAscii keyword := beq_iff_eq.mp unescaped
    show '@' :: (writeIdent (lowerAscii keyword) ++ []) = _
    rw [List.append_nil, written]
  have inside : isReadable (piece prelude) := by
    rw [preludeLayout] at behind
    split at behind
    · rename_i nothing
      rw [List.isEmpty_iff.mp nothing]
      exact isReadable_nil
    · exact (isReadable_cons.mp behind).2
  rw [atRuleHead, isEmpty_compactText faithful inside, headLayout, preludeLayout]
  split
  · rw [name]
    simp [toList_indent]
  · have split
        : Component.atom 0 (.atKeyword (lowerAscii keyword)) :: blank [' '] :: piece prelude
          = [.atom 0 (.atKeyword (lowerAscii keyword))] ++ blank [' '] :: piece prelude :=
      rfl
    rw [split, writeAll_append_blank named, writeAll_blank, name]
    simp [toList_indent, toList_compactText faithful]

--------------------------------------------------------------------------------
-- Items
--------------------------------------------------------------------------------

mutual
/-- Is the rule printed as the components that are laid out for it? -/
def Item.isFaithful : Item → Bool
  | .style selectors settings =>
    selectors.all CriticalCss.isFaithful && settings.all Setting.isFaithful
  | .verbatim _ prelude _ => isLoose prelude
  | .declarationBlock keyword prelude settings =>
    isUnescaped (lowerAscii keyword) && CriticalCss.isFaithful prelude
      && settings.all Setting.isFaithful
  | .ruleBlock keyword prelude body =>
    isUnescaped (lowerAscii keyword) && CriticalCss.isFaithful prelude && Item.allFaithful body

/-- Are the rules printed as the components that are laid out for them? -/
def Item.allFaithful : List Item → Bool
  | [] => true
  | item :: rest => item.isFaithful && Item.allFaithful rest
end

/-- The text of an item that is printed at the given depth, its lines ended. -/
def Item.IsPrinted (item : Item) (depth : Nat) : Prop :=
  ∃ lines,
    item.node.lines depth = .ok lines
    ∧ linesText lines = margin depth ++ (writeAll (item.layout depth) ++ ['\n'])

theorem isReadable_content {line : Nat} {bracket : Bracket} {content : List Component}
    (readable : isReadable [.block line bracket content])
    : isReadable content :=
  (Legible.append_iff.mp (Legible.append_iff.mp (Legible.tail readable)).1).1

/-- A style rule is printed as it is laid out. -/
theorem isPrinted_style {selectors : List (List Component)} {settings : List Setting} {depth : Nat}
    (filled : selectors ≠ []) (faithful : (Item.style selectors settings).isFaithful = true)
    (readable : isReadable ((Item.style selectors settings).layout depth))
    : (Item.style selectors settings).IsPrinted depth := by
  simp only [Item.isFaithful, Bool.and_eq_true, List.all_eq_true] at faithful
  rw [Item.layout, isReadable_append] at readable
  obtain ⟨before, behind⟩ := readable
  have inside := isReadable_content (isReadable_cons.mp behind).2
  obtain ⟨lines, printed, texts⟩ := declarationLines_settings depth faithful.2 inside
  refine ⟨blockLines depth (indent depth ++ ", ".intercalate (selectors.map compactText)) lines, ?_,
    ?_⟩
  · rw [Item.node, Node.lines, if_neg (by simpa using filled), printed]
    rfl
  · rw [linesText_blockLines texts, String.toList_append, toList_indent,
      toList_intercalate_selectors faithful.1 before, Item.layout, writeAll_block before]
    simp

theorem named_of_ne_nil {keyword : List Char} (filled : keyword ≠ [])
    (lines : Except PrintError (List String))
    : named (String.ofList (lowerAscii keyword)) lines = lines := by
  have some : (String.ofList (lowerAscii keyword)).isEmpty = false := by
    simpa [← Bool.not_eq_true, String.isEmpty_iff, ← String.toList_eq_nil_iff, lowerAscii] using filled
  rw [named, some, if_neg Bool.false_ne_true]

/-- An at-rule that is kept as it was written is printed as it is laid out. -/
theorem isPrinted_verbatim {keyword : List Char} {prelude : List Component}
    {content : Option (List Component)} {depth : Nat}
    (faithful : (Item.verbatim keyword prelude content).isFaithful = true)
    (readable : isReadable ((Item.verbatim keyword prelude content).layout depth))
    : (Item.verbatim keyword prelude content).IsPrinted depth := by
  have own : .atom (.atKeyword keyword)
      ∈ tokensOf ((Item.verbatim keyword prelude content).layout depth) := by
    cases content <;> exact List.mem_cons_self
  have filled : keyword ≠ [] := (readable.formed _ own).1
  refine ⟨[indent depth ++ Text.trimString (verbatimText keyword prelude content)], ?_, ?_⟩
  · rw [Item.node, Node.lines, named_of_ne_nil filled]
  · rw [linesText_cons, String.toList_append, toList_indent, trim_verbatimText faithful depth readable]
    simp [linesText]

/-- The lines of a block behind the name of an at-rule are those of its layout. -/
theorem linesText_headed {keyword : List Char} {prelude content : List Component} {depth : Nat}
    {body : List String} (unescaped : isUnescaped (lowerAscii keyword) = true)
    (faithful : isFaithful prelude = true) (readable : isReadable (headLayout keyword prelude))
    (same : '\n' :: (linesText body ++ margin depth) = writeAll content)
    : linesText
          (blockLines depth (atRuleHead depth (String.ofList (lowerAscii keyword)) (compactText prelude))
            body)
      = margin depth
        ++ (writeAll (headLayout keyword prelude ++ [blank [' '], .block 0 .curly content])
          ++ ['\n']) := by
  rw [linesText_blockLines same, toList_atRuleHead unescaped faithful readable,
    writeAll_block readable]
  simp

theorem keyword_ne_nil {keyword : List Char} {prelude : List Component}
    (readable : isReadable (headLayout keyword prelude))
    : keyword ≠ [] := by
  have filled : lowerAscii keyword ≠ [] :=
    (readable.formed (.atom (.atKeyword _)) List.mem_cons_self).1
  simpa [lowerAscii] using filled

/-- A block of declarations is printed as it is laid out. -/
theorem isPrinted_declarationBlock {keyword : List Char} {prelude : List Component}
    {settings : List Setting} {depth : Nat}
    (faithful : (Item.declarationBlock keyword prelude settings).isFaithful = true)
    (readable : isReadable ((Item.declarationBlock keyword prelude settings).layout depth))
    : (Item.declarationBlock keyword prelude settings).IsPrinted depth := by
  simp only [Item.isFaithful, Bool.and_eq_true, List.all_eq_true] at faithful
  obtain ⟨⟨unescaped, faithfulPrelude⟩, faithfulSettings⟩ := faithful
  rw [Item.layout, isReadable_append] at readable
  obtain ⟨head, behind⟩ := readable
  have inside := isReadable_content (isReadable_cons.mp behind).2
  obtain ⟨lines, printed, texts⟩ := declarationLines_settings depth faithfulSettings inside
  refine ⟨_, ?_, linesText_headed unescaped faithfulPrelude head texts⟩
  rw [Item.node, Node.lines, named_of_ne_nil (keyword_ne_nil head), printed]
  rfl

theorem bodyLayout_starts (depth outer : Nat) (items : List Item)
    : ∃ text more, Item.bodyLayout depth items ++ [lineBreak outer] = blank text :: more := by
  cases items with
  | nil => exact ⟨_, _, rfl⟩
  | cons item rest => exact ⟨_, _, rfl⟩

mutual
/-- An item is printed as it is laid out. -/
theorem isPrinted (item : Item) {closer : Option Bracket} {depth : Nat} (formed : item.Formed closer)
    (faithful : item.isFaithful = true) (readable : isReadable (item.layout depth))
    : item.IsPrinted depth := by
  match item with
  | .style selectors settings => exact isPrinted_style formed.1 faithful readable
  | .verbatim keyword prelude content => exact isPrinted_verbatim faithful readable
  | .declarationBlock keyword prelude settings => exact isPrinted_declarationBlock faithful readable
  | .ruleBlock keyword prelude body =>
    simp only [Item.isFaithful, Bool.and_eq_true] at faithful
    obtain ⟨⟨unescaped, faithfulPrelude⟩, faithfulBody⟩ := faithful
    rw [Item.layout, isReadable_append] at readable
    obtain ⟨head, behind⟩ := readable
    have inside := isReadable_content (isReadable_cons.mp behind).2
    obtain ⟨lines, printed, texts⟩ :=
      isPrinted_body body depth formed.2.2 faithfulBody inside
    refine ⟨_, ?_, linesText_headed unescaped faithfulPrelude head texts⟩
    rw [Item.node, Node.lines, named_of_ne_nil (keyword_ne_nil head), printed]
    rfl

/-- Items in a block are printed as they are laid out. -/
theorem isPrinted_body (items : List Item) {closer : Option Bracket} (outer : Nat)
    (formed : Item.AllFormed closer items) (faithful : Item.allFaithful items = true)
    (readable : isReadable (Item.bodyLayout (outer + 1) items ++ [lineBreak outer]))
    : ∃ lines,
        Stylesheet.lines (outer + 1) (Item.nodes items) = .ok lines
        ∧ '\n' :: (linesText lines ++ margin outer)
          = writeAll (Item.bodyLayout (outer + 1) items ++ [lineBreak outer]) := by
  match items with
  | [] =>
    refine ⟨[], rfl, ?_⟩
    rw [Item.bodyLayout, List.nil_append, lineBreak, writeAll_blank]
    exact (List.append_nil _).symm
  | item :: rest =>
    rw [Item.allFaithful, Bool.and_eq_true] at faithful
    rw [Item.bodyLayout, List.cons_append, isReadable_cons, List.append_assoc, isReadable_append]
      at readable
    obtain ⟨-, own, others⟩ := readable
    obtain ⟨first, printed, text⟩ := isPrinted item formed.1 faithful.1 own
    obtain ⟨lines, printedOthers, texts⟩ := isPrinted_body rest outer formed.2 faithful.2 others
    obtain ⟨blanks, more, starts⟩ := bodyLayout_starts (outer + 1) outer rest
    refine ⟨first ++ lines, ?_, ?_⟩
    · rw [Item.nodes, Stylesheet.lines, printed, printedOthers]
      rfl
    · rw [Item.bodyLayout, List.cons_append, List.append_assoc, lineBreak, writeAll_blank, starts,
        writeAll_append_blank own, ← starts, ← texts, linesText_append, text]
      simp [margin]
end

/-- A sheet is printed as it is laid out. -/
theorem print_nodes {items : List Item} {closer : Option Bracket}
    (formed : Item.AllFormed closer items) (faithful : Item.allFaithful items = true)
    (readable : isReadable (sheetLayout items))
    : Stylesheet.print (Item.nodes items) = .ok (String.ofList (writeAll (sheetLayout items))) := by
  have printed
      : ∃ lines,
          Stylesheet.lines 0 (Item.nodes items) = .ok lines
          ∧ linesText lines = writeAll (sheetLayout items) := by
    induction items with
    | nil => exact ⟨[], rfl, rfl⟩
    | cons item rest ih =>
      rw [Item.allFaithful, Bool.and_eq_true] at faithful
      rw [sheetLayout_cons, isReadable_append] at readable
      obtain ⟨own, behind⟩ := readable
      obtain ⟨first, printed, text⟩ := isPrinted item formed.1 faithful.1 own
      obtain ⟨lines, printedOthers, texts⟩ :=
        ih formed.2 faithful.2 (isReadable_cons.mp behind).2
      have isSeam : (lineBreak 0).kind.IsSeam := isSeam_whitespace
      refine ⟨first ++ lines, ?_, ?_⟩
      · rw [Item.nodes, Stylesheet.lines, printed, printedOthers]
        rfl
      · rw [sheetLayout_cons, writeAll_seam own isSeam, ← texts, linesText_append, text]
        simp [margin, lineBreak, blank, writeComponent, writeAtom]
  obtain ⟨lines, given, text⟩ := printed
  rw [Stylesheet.print, given]
  show Except.ok (String.join (lines.map (· ++ "\n"))) = _
  rw [Except.ok.injEq, ← text, ← String.toList_inj, String.toList_join, String.toList_ofList]
  simp [linesText, List.flatMap_map]

end CriticalCss
