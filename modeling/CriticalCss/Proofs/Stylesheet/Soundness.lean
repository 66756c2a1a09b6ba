import CriticalCss.Proofs.Stylesheet.Layout
import CriticalCss.Proofs.Syntax.Lexing

/-! The components of a text that is read are sound, and so are those that are laid out for its
items: their tokens are well-formed, no whole number has too many digits, and no bracket closes
another one than its partner.
-/

namespace CriticalCss

open Syntax

namespace Syntax

section Sound

variable {closer : Option Bracket}

theorem sound_nil : Sound closer [] :=
  ⟨by simp [tokensOf], rfl⟩

theorem Sound.append {left right : List Component} (first : Sound closer left)
    (second : Sound closer right)
    : Sound closer (left ++ right) := by
  constructor
  · intro token member
    rw [tokensOf_append, List.mem_append] at member
    exact member.elim (first.tokens token) (second.tokens token)
  · rw [allOpenIn_eq_all, List.all_append, Bool.and_eq_true, ← allOpenIn_eq_all,
      ← allOpenIn_eq_all]
    exact ⟨first.openIn, second.openIn⟩

theorem Sound.cons {component : Component} {rest : List Component}
    (first : Sound closer [component]) (others : Sound closer rest)
    : Sound closer (component :: rest) :=
  first.append others

/-- An atom of a layout holds no number and is no bracket. -/
theorem sound_atom {line : Nat} {found : Atom} (formed : (Token.atom found).WellFormed)
    (noNumber : found.numberText? = none)
    : Sound closer [.atom line found] := by
  have matched : ∀ bracket, found ≠ .flaw (.unmatched bracket) := by
    rintro bracket rfl
    exact formed bracket rfl
  constructor
  · intro token member
    rw [tokensOf, tokens_atom matched] at member
    rw [List.mem_singleton.mp member]
    exact ⟨formed, by simp [Token.wholeDigits?, noNumber]⟩
  · rw [allOpenIn, Component.isOpenIn_atom matched]
    rfl

theorem sound_block {line : Nat} {bracket : Bracket} {content : List Component}
    (sound : Sound (some bracket) content)
    : Sound closer [.block line bracket content] := by
  constructor
  · intro token member
    simp only [tokensOf, Component.tokens, List.append_nil, List.mem_cons, List.mem_append,
      List.not_mem_nil, or_false] at member
    rcases member with rfl | inside | rfl
    · exact ⟨trivial, rfl⟩
    · exact sound.tokens token inside
    · exact ⟨trivial, rfl⟩
  · rw [allOpenIn, Component.isOpenIn, sound.openIn]
    rfl

end Sound

end Syntax

section Layout

variable {closer : Option Bracket}

theorem sound_blank {text : List Char} (filled : text ≠ [])
    (blanks : ∀ c ∈ text, isSpace c = true)
    : Sound closer [blank text] :=
  sound_atom ⟨filled, blanks⟩ rfl

theorem sound_space : Sound closer [blank [' ']] :=
  sound_blank (by simp) (List.all_eq_true.mp (by decide))

theorem sound_lineBreak (depth : Nat) : Sound closer [lineBreak depth] := by
  refine sound_blank (by simp) fun c member => ?_
  rcases List.mem_cons.mp member with rfl | inMargin
  · decide
  · rw [List.eq_of_mem_replicate inMargin]
    decide

theorem sound_mark {c : Char} (is : isMark c = true) : Sound closer [mark c] :=
  sound_atom (Or.inl ⟨c, rfl, is⟩) rfl

/-- Sound components stay sound with one space for each run of whitespace. -/
theorem sound_unifySpaces {components : List Component} (sound : Sound closer components)
    : Sound closer (unifySpaces components) := by
  induction components with
  | nil => exact sound_nil
  | cons component rest ih =>
    have others := ih (sound.of_subset fun _ => List.mem_cons_of_mem _)
    have own : Sound closer [component] := sound.of_subset (by simp)
    rw [unifySpaces] at others ⊢
    rw [List.map_cons]
    refine Sound.cons ?_ others
    cases component with
    | atom line found =>
      cases found with
      | whitespace text => exact sound_atom ⟨by simp, List.all_eq_true.mp (by decide)⟩ rfl
      | _ => exact own
    | block line bracket content => exact own
    | function line name arguments => exact own

/-- A piece of sound components is sound. -/
theorem sound_piece {components : List Component} (sound : Sound closer components)
    : Sound closer (piece components) :=
  (sound_unifySpaces sound).of_subset fun _ member => (trimBlanks_sublist _).subset member

/-- A name stays one in lower case. -/
theorem isName_lowerAscii {name : List Char} (is : IsName name) : IsName (lowerAscii name) := by
  refine ⟨by simpa [lowerAscii] using is.1, fun null => ?_⟩
  obtain ⟨c, inName, lower⟩ := List.mem_map.mp null
  rcases toLower_cases c with ⟨n, small, rfl⟩ | kept
  · have letters : ∀ n < 26, (Char.ofNat (65 + n)).toLower ≠ '\x00' := by decide
    exact letters n small lower
  · exact is.2 (kept.symm.trans lower ▸ inName)

theorem isName_propertyName {name : List Char} (is : IsName name)
    : IsName (propertyName name).toList := by
  rw [propertyName, String.toList_ofList]
  split
  · exact is
  · exact isName_lowerAscii is

theorem sound_importance : Sound closer importance := by
  refine (sound_mark (by decide)).cons (sound_atom ?_ rfl)
  exact ⟨by decide, by decide⟩

theorem sound_padded {setting : Setting} (sound : Sound closer setting.value)
    : Sound closer setting.padded := by
  rw [Setting.padded]
  split
  · exact sound_blank (by simp) (List.all_eq_true.mp (by decide))
  · refine sound_space.cons ((sound_piece sound).append ?_)
    split
    · exact sound_space
    · exact sound_nil

/-- The tokens of a declaration are sound. -/
theorem sound_setting {setting : Setting} (formed : setting.Formed)
    : Sound (some .curly) setting.layout := by
  have marked
      : Sound (some .curly) ((if setting.important then importance else []) ++ [mark ';']) := by
    refine Sound.append ?_ (sound_mark (by decide))
    split
    · exact sound_importance
    · exact sound_nil
  have name : (Token.atom (.ident (propertyName setting.name).toList)).WellFormed :=
    isName_propertyName formed.named
  have behind := (sound_padded formed.sound).append marked
  exact (sound_atom name rfl).cons ((sound_mark (by decide)).cons behind)

/-- The tokens of a block of declarations are sound. -/
theorem sound_settingsLayout (depth : Nat) {settings : List Setting}
    (formed : ∀ setting ∈ settings, setting.Formed)
    : Sound (some .curly) (settingsLayout depth settings) := by
  induction settings with
  | nil => exact sound_lineBreak depth
  | cons setting rest ih =>
    have own := sound_setting (formed setting List.mem_cons_self)
    have others := ih fun setting member => formed setting (List.mem_cons_of_mem _ member)
    rw [settingsLayout_cons]
    exact (sound_lineBreak _).cons (own.append others)

theorem sound_selectorsLayout {selectors : List (List Component)}
    (sound : ∀ group ∈ selectors, Sound closer group)
    : Sound closer (selectorsLayout selectors) := by
  induction selectors with
  | nil => exact sound_nil
  | cons group rest ih =>
    have own := sound_piece (sound group List.mem_cons_self)
    cases rest with
    | nil => exact own
    | cons next others =>
      have later := ih fun group member => sound group (List.mem_cons_of_mem _ member)
      rw [selectorsLayout_cons_cons]
      exact own.append ((sound_mark (by decide)).cons (sound_space.cons later))

theorem sound_headed {keyword : List Char} {prelude content : List Component}
    (formed : PreludeFormed closer keyword prelude) (inside : Sound (some .curly) content)
    : Sound closer (headLayout keyword prelude ++ [blank [' '], .block 0 .curly content]) := by
  have name : (Token.atom (.atKeyword (lowerAscii keyword))).WellFormed :=
    isName_lowerAscii formed.named
  have laid : Sound closer (preludeLayout prelude) := by
    rw [preludeLayout]
    split
    · exact sound_nil
    · exact sound_space.cons (sound_piece formed.sound)
  exact ((sound_atom name rfl).cons laid).append (sound_space.cons (sound_block inside))

end Layout

mutual
/-- The tokens of an item are sound. -/
theorem sound_layout (item : Item) {closer : Option Bracket} (formed : item.Formed closer)
    (depth : Nat)
    : Sound closer (item.layout depth) := by
  match item with
  | .style selectors settings =>
    obtain ⟨-, formedSelectors, formedSettings⟩ := formed
    have before := sound_selectorsLayout fun group member => (formedSelectors group member).sound
    have block : Sound closer [.block 0 .curly (settingsLayout depth settings)] :=
      sound_block (sound_settingsLayout depth formedSettings)
    rw [Item.layout]
    exact before.append (sound_space.cons block)
  | .verbatim keyword prelude none =>
    have name : (Token.atom (.atKeyword keyword)).WellFormed := formed.1.named
    rw [Item.layout]
    exact (sound_atom name rfl).cons (formed.1.sound.append (sound_mark (by decide)))
  | .verbatim keyword prelude (some content) =>
    have name : (Token.atom (.atKeyword keyword)).WellFormed := formed.1.named
    have block : Sound closer [.block 0 .curly content] := sound_block (formed.2 content rfl).1
    rw [Item.layout]
    exact (sound_atom name rfl).cons (formed.1.sound.append block)
  | .declarationBlock keyword prelude settings =>
    exact sound_headed formed.1 (sound_settingsLayout depth formed.2.2)
  | .ruleBlock keyword prelude body =>
    refine sound_headed formed.1 ?_
    exact (sound_bodyLayout body formed.2.2 (depth + 1)).append (sound_lineBreak depth)

/-- The tokens of items in a block are sound. -/
theorem sound_bodyLayout (items : List Item) {closer : Option Bracket}
    (formed : Item.AllFormed closer items) (depth : Nat)
    : Sound closer (Item.bodyLayout depth items) := by
  match items with
  | [] => exact sound_nil
  | item :: rest =>
    have own := sound_layout item formed.1 depth
    have others := sound_bodyLayout rest formed.2 depth
    rw [Item.bodyLayout]
    exact (sound_lineBreak depth).cons (own.append others)
end

/-- The tokens of a sheet are sound. -/
theorem sound_sheetLayout {items : List Item} {closer : Option Bracket}
    (formed : Item.AllFormed closer items)
    : Sound closer (sheetLayout items) := by
  induction items with
  | nil => exact sound_nil
  | cons item rest ih =>
    rw [sheetLayout_cons]
    exact (sound_layout item formed.1 0).append ((sound_lineBreak 0).cons (ih formed.2))

--------------------------------------------------------------------------------
-- Texts
--------------------------------------------------------------------------------

/-- The digits of a text are counted by its tokens. -/
theorem first?_eq_none_iff {lexemes : List Lexeme}
    : LongNumber.first? lexemes = none
      ↔ ∀ lexeme ∈ lexemes,
          lexeme.token.wholeDigits?.all (· ≤ Text.digitLimit) = true := by
  simp only [LongNumber.first?, Option.map_eq_none_iff, List.find?_eq_none, List.mem_filterMap,
    decide_eq_true_eq, Nat.not_lt, forall_exists_index, and_imp, Option.all_eq_true]
  exact ⟨fun all lexeme member digits found => all digits lexeme member found,
    fun all digits lexeme member found => all lexeme member digits found⟩

/-- The components of a text without long numbers are sound. -/
theorem sound_ofText {css : String} (short : LongNumber.first? (lex css) = none)
    : Sound none (Component.ofText css) := by
  have formed := formed_lex css
  rw [first?_eq_none_iff] at short
  refine ⟨fun token member => ?_, Component.allOpenIn_gather none _ formed⟩
  rcases Component.mem_of_mem_tokensOf_gather member with ⟨lexeme, inText, rfl⟩ | ⟨bracket, rfl⟩
  · exact ⟨formed lexeme inText, short lexeme inText⟩
  · exact ⟨trivial, rfl⟩

end CriticalCss
