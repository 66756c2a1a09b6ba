import CriticalCss.Proofs.Stylesheet.Joining
import CriticalCss.Proofs.Stylesheet.Printing
import CriticalCss.Proofs.Stylesheet.Rereading

/-! Reading what was printed. A tree survives if its text is read as the same tree again.
-/

namespace CriticalCss

open Syntax

/-- Is the tree printed, and read back from its text? -/
def Stylesheet.Survives (sheet : Stylesheet) : Prop :=
  ∃ text events, sheet.print = .ok text ∧ Stylesheet.read text = .ok ⟨sheet, events⟩

--------------------------------------------------------------------------------
-- Where trees survive
--------------------------------------------------------------------------------

/-- Are the items printed as the tokens that are laid out for them, and can these be told apart? -/
def Item.allWritable (items : List Item) : Bool :=
  Item.allFaithful items && Item.allLead true items
    && (tokensOf (sheetLayout items)).all Token.isLegible
    && separate (tokensOf (sheetLayout items))

/-- Rules whose tokens can be told apart are read back from their text. -/
theorem survives_nodes {items : List Item} (formed : Item.AllFormed none items)
    (writable : Item.allWritable items = true)
    : Stylesheet.Survives (Item.nodes items) := by
  simp only [Item.allWritable, Bool.and_eq_true, List.all_eq_true] at writable
  obtain ⟨⟨⟨faithful, leads⟩, legible⟩, apart⟩ := writable
  have sound := sound_sheetLayout formed
  have readable : Legible (tokensOf (sheetLayout items)) :=
    ⟨fun token member => (sound.tokens token member).formed, legible⟩
  have written : writeAll (sheetLayout items) = spell none (tokensOf (sheetLayout items)) :=
    writeAfter_eq_spell _ readable none rfl
  have short : LongNumber.first? (lex (String.ofList (writeAll (sheetLayout items)))) = none := by
    rw [first?_eq_none_iff]
    intro lexeme member
    have token : lexeme.token ∈ tokensOf (sheetLayout items) := by
      rw [← lex_spell readable apart, ← written]
      exact List.mem_map_of_mem member
    exact (sound.tokens _ token).short
  have gathered := Component.bareAll_ofText readable apart sound.openIn
  have reread
      : (readRules true (Component.ofText (String.ofList (writeAll (sheetLayout items))))).1
        = Item.nodes items :=
    (readRules_congr gathered).trans (readRules_sheetLayout formed leads)
  refine ⟨_, (readRules true (Component.ofText (String.ofList (writeAll (sheetLayout items))))).2,
    print_nodes formed faithful readable, ?_⟩
  rw [Stylesheet.read, short, ← reread]

/-- Is everything that is read in the text printed with all it needs to be read back? What is lost
otherwise: the escapes in the name of a property, or of an at-rule whose block is read; the character
behind a last backslash, where it is a blank that is trimmed; one of two blanks with a comment
between them; the end of a string or an address that the text leaves open.
-/
def Stylesheet.isLegible (css : String) : Bool :=
  let found := itemsOf true (Component.ofText css)
  Item.allKeepPrelude found && Item.allWritable (Item.allJoined found)

/-- The tree of a legible text survives. What the check refuses is lost as a rule, though not always.
Witness: what the text holds is laid out in components; the layout is printed as its text, its text
is cut into its tokens again, and these are read as the rules that were laid out.
-/
theorem Stylesheet.survives_of_isLegible {css : String} {reading : Reading}
    (read : Stylesheet.read css = .ok reading) (legible : Stylesheet.isLegible css = true)
    : Stylesheet.Survives reading.sheet := by
  unfold Stylesheet.read at read
  split at read
  · cases read
  · rename_i short
    rw [Stylesheet.isLegible, Bool.and_eq_true] at legible
    obtain ⟨keeps, writable⟩ := legible
    have formed := formed_itemsOf true (sound_ofText short)
    have survives := survives_nodes (formed_allJoined _ formed) writable
    rw [nodes_allJoined _ formed keeps, ← readRules_eq_nodes] at survives
    cases read
    exact survives

/-- A text with comments between tokens, an escaped name, odd whitespace, a block of rules and one
that is kept as it was written. -/
def mixedText : String :=
  "/* x */.a\\:b /**/, c>\td\x7bmargin :0 /* x */!important;--X:\x7bu:v\x7d\x7d"
    ++ "@media (x:1)\x7bp\x7b\x7d\x7d @foo y\x7ba; /* x */ b\x7d"

/-- The tree of that text. -/
def mixedSheet : Stylesheet :=
  [.style [".a\\:b", "c> d"] [.set "margin" "0" true, .set "--X" "\x7bu:v\x7d" false],
    .ruleBlock "media" "(x:1)" [.style ["p"] []],
    .verbatim "foo" "y" "@foo y\x7ba;  b\x7d" .none .null]

theorem Stylesheet.survives_mixedSheet
    : Stylesheet.read mixedText = .ok ⟨mixedSheet, []⟩ ∧ Stylesheet.isLegible mixedText = true
      ∧ Stylesheet.Survives mixedSheet := by
  have read : Stylesheet.read mixedText = .ok ⟨mixedSheet, []⟩ :=
    Stylesheet.read_of_reads (by decide +kernel)
  have legible : Stylesheet.isLegible mixedText = true := by decide +kernel
  exact ⟨read, legible, Stylesheet.survives_of_isLegible read legible⟩

--------------------------------------------------------------------------------
-- Where a tree does not survive
--------------------------------------------------------------------------------

/-- The name of a property is printed without its escapes, so that a declaration whose name needs
one is lost. (Other trees that do not survive are those of `a{b:c /* x */ d}`, where two blanks
become one, of `a{b:c\9}`, where the backslash takes the semicolon in, and of `a{b:"c`.) -/
theorem Stylesheet.not_survives_escapedProperty
    : Stylesheet.read "a\x7b\\31 x:1\x7d" = .ok ⟨[.style ["a"] [.set "1x" "1" false]], []⟩
      ∧ ¬ Stylesheet.Survives [.style ["a"] [.set "1x" "1" false]] := by
  refine ⟨Stylesheet.read_of_reads (by decide +kernel), ?_⟩
  rintro ⟨text, events, printed, read⟩
  have written : Stylesheet.print [.style ["a"] [.set "1x" "1" false]]
      = .ok "a \x7b\n  1x: 1;\n\x7d\n" := rfl
  rw [written, Except.ok.injEq] at printed
  subst printed
  have lost
      : (Stylesheet.read "a \x7b\n  1x: 1;\n\x7d\n").toOption.all
            (Stylesheet.same ·.sheet [.style ["a"] []])
        = true := by decide +kernel
  rw [read] at lost
  simp [Except.toOption, Stylesheet.same, Node.same] at lost

end CriticalCss
