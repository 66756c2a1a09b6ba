import CriticalCss.Proofs.Selector.Cutting
import CriticalCss.Proofs.Selector.Written

/-! What is cut out of a compound. The pseudos that no page tells are, and nothing else is unless a
name or an argument spells such a pseudo, or the colon of one stands behind another colon.
-/

namespace CriticalCss.Selector

--------------------------------------------------------------------------------
-- Names in any case
--------------------------------------------------------------------------------

section Case

variable {text : List Char} (ascii : Text.IsAscii text)

include ascii

theorem dropWord_map_toLower (word : List Char)
    : Text.dropWordIgnoringCase word (text.map Char.toLower)
      = (Text.dropWordIgnoringCase word text).map (·.map Char.toLower) := by
  have key {c : Char} (ascii : c.toNat < 128) : Text.caseKey c.toLower = Text.caseKey c := by
    have lower : c.toLower.toNat < 128 :=
      Text.forall_ascii (P := fun c => c.toLower.toNat < 128) (by decide) ascii
    rw [Text.caseKey_of_ascii ascii, Text.caseKey_of_toLower lower (Text.toLower_toLower c)]
  induction word generalizing text with
  | nil => rfl
  | cons w word ih =>
    cases text with
    | nil => rfl
    | cons c text =>
      obtain ⟨first, others⟩ := List.forall_mem_cons.mp ascii
      rw [List.map_cons, Text.dropWordIgnoringCase, Text.dropWordIgnoringCase,
        Text.sameIgnoringCase, key first, ← Text.sameIgnoringCase, ih others]
      split <;> rfl

theorem nameEnds_map_toLower : nameEnds (text.map Char.toLower) = nameEnds text := by
  cases text with
  | nil => rfl
  | cons c text =>
    have first : c.toNat < 128 := ascii c List.mem_cons_self
    exact Text.forall_ascii (P := fun c => nameEnds [c.toLower] = nameEnds [c]) (by decide) first

theorem afterName?_map_toLower (names : List String)
    : afterName? names (text.map Char.toLower)
      = (afterName? names text).map (·.map Char.toLower) := by
  unfold afterName?
  induction names with
  | nil => rfl
  | cons name names ih =>
    rw [List.findSome?_cons, List.findSome?_cons, dropWord_map_toLower ascii, ih]
    cases dropped : Text.dropWordIgnoringCase name.toList text with
    | none => rfl
    | some after =>
      have ascii : Text.IsAscii after := fun c member =>
        ascii c ((dropWord_suffix dropped).subset member)
      simp only [Option.map_some, Option.filter, nameEnds_map_toLower ascii]
      cases nameEnds after <;> rfl

end Case

namespace Written

open Tidy.Written (Identifier Letter)

variable {rest : List Char}

--------------------------------------------------------------------------------
-- Pseudos that no page tells
--------------------------------------------------------------------------------

namespace Untold

theorem isAscii (pseudo : Untold) : Text.IsAscii pseudo.spelling := by
  obtain ⟨name, member, same⟩ := pseudo.listed
  have ascii : Text.IsAscii name.toList := fun w inName =>
    toNat_lt_of_isListed ((areNames_stripped name member).2 w inName)
  exact Text.isAscii_of_map_toLower (same ▸ ascii)

theorem afterName?_spelling (pseudo : Untold)
    : afterName? strippedPseudos pseudo.spelling = some [] := by
  have names : ∀ name ∈ strippedPseudos, afterName? strippedPseudos name.toList = some [] := by
    decide
  obtain ⟨name, member, same⟩ := pseudo.listed
  have found := names name member
  rw [← same, afterName?_map_toLower pseudo.isAscii, Option.map_eq_some_iff] at found
  obtain ⟨after, isAfter, empty⟩ := found
  rw [isAfter, List.map_eq_nil_iff.mp empty]

/-- The name is found, whatever stops it. -/
theorem startsWithName_spelling (pseudo : Untold) (stops : Stops rest)
    : startsWithName strippedPseudos (pseudo.spelling ++ rest) = true := by
  rw [startsWithName_append areNames_stripped stops, startsWithName_eq, pseudo.afterName?_spelling]
  rfl

/-- There is no second colon, and no hyphen starts the name. -/
theorem of_mem_spelling (pseudo : Untold)
    : ':' ∉ pseudo.spelling ∧ pseudo.spelling.head? ≠ some '-' := by
  have names : ∀ name ∈ strippedPseudos, ':' ∉ name.toList ∧ name.toList.head? ≠ some '-' := by
    decide
  obtain ⟨name, member, same⟩ := pseudo.listed
  obtain ⟨noColon, noHyphen⟩ := names name member
  rw [← same] at noColon noHyphen
  refine ⟨fun colon => noColon (List.mem_map.mpr ⟨':', colon, rfl⟩), fun hyphen => noHyphen ?_⟩
  rw [List.head?_map, hyphen]
  rfl

/-- The pseudo is cut out. -/
theorem cutOut_text (pseudo : Untold) (stops : Stops rest)
    : cutOut afterStripped? (pseudo.text ++ rest) = cutOut afterStripped? rest := by
  have starts := pseudo.startsWithName_spelling stops
  have found : afterName? strippedPseudos (pseudo.spelling ++ rest) = some rest := by
    rw [afterName?_append areNames_stripped stops, pseudo.afterName?_spelling]
    rfl
  have one : afterStripped? (':' :: (pseudo.spelling ++ rest)) = some rest :=
    (afterStripped?_colon starts).trans found
  rw [text, List.append_assoc]
  cases pseudo.double with
  | false => exact cutOut_of_some one
  | true => exact (cutOut_colon starts).trans (cutOut_of_some one)

/-- The pseudo is none of a vendor. -/
theorem occursIn_vendor (pseudo : Untold) : occursIn afterVendor? pseudo.text = false := by
  obtain ⟨noColon, noHyphen⟩ := pseudo.of_mem_spelling
  have noVendor : ¬StartsVendor pseudo.spelling := by
    rintro ⟨vendor, c, after, -, -, -, same⟩
    exact noHyphen (by rw [same]; rfl)
  have none {body : List Char} (search : afterColons body = some pseudo.spelling)
      : (afterVendor? body).isSome = false := by
    refine Bool.eq_false_iff.mpr fun found => noVendor ?_
    obtain ⟨own, isOwn, starts⟩ := (isSearchFor_vendor.found body).mp found
    rwa [← Option.some.inj (isOwn.symm.trans search)]
  have spelling : occursIn afterVendor? pseudo.spelling = false := by
    have behind := isSearchFor_vendor.occursIn_of_not_mem noColon []
    rwa [List.append_nil] at behind
  have apart : pseudo.spelling.head? ≠ some ':' :=
    fun first => noColon (List.mem_of_mem_head? first)
  have single : occursIn afterVendor? (':' :: pseudo.spelling) = false := by
    rw [occursIn, none (afterColons_cons apart), spelling]
    rfl
  rw [text]
  cases pseudo.double with
  | false => exact single
  | true =>
    change occursIn afterVendor? (':' :: ':' :: pseudo.spelling) = false
    rw [occursIn, none rfl, single]
    rfl

end Untold

--------------------------------------------------------------------------------
-- Parts
--------------------------------------------------------------------------------

theorem stops_colons (double : Bool) (text : List Char) : Stops (colons double ++ text) := by
  rintro c first
  cases double <;> cases first <;> rfl

namespace Part

/-- No part goes on with a name in front of it. -/
theorem stops_text (part : Part) (rest : List Char) : Stops (part.text ++ rest) := by
  match part with
  | .simple (.className _) | .simple (.id _) | .simple (.attr _) => rintro c ⟨⟩; rfl
  | .simple (.pseudo double _ _) | .untold ⟨double, _, _⟩ =>
    simp only [text, Simple.text, Untold.text, List.append_assoc]
    exact stops_colons double _

theorem stops_texts (stops : Stops rest) (parts : List Part)
    : Stops (parts.flatMap (·.text) ++ rest) := by
  cases parts with
  | nil => exact stops
  | cons part parts =>
    rw [List.flatMap_cons, List.append_assoc]
    exact part.stops_text _

/-- Is this a pseudo of one colon that no page tells? -/
def isSingle : Part → Bool
  | simple _ => false
  | untold pseudo => !pseudo.double

/-- Does a pseudo of one colon that no page tells follow a text that ends in a colon? -/
def collide (before : List Char) : List Part → Bool
  | [] => false
  | part :: parts => (before.getLast? == some ':' && part.isSingle) || collide part.bare parts

theorem text_ne_nil (part : Part) : part.text ≠ [] := by
  match part with
  | .simple (.className _) | .simple (.id _) | .simple (.attr _) => exact List.cons_ne_nil _ _
  | .simple (.pseudo double _ _) | .untold ⟨double, _, _⟩ =>
    cases double <;> exact List.cons_ne_nil _ _

/-- What is no pseudo that no page tells and holds none starts none either. -/
theorem meets_iff {part : Part} (clear : occursIn afterStripped? part.bare = false)
    (stops : Stops rest) (before : List Char)
    : Meets before (part.text ++ rest) ↔ (before.getLast? == some ':' && part.isSingle) = true := by
  cases part with
  | simple it =>
    simp only [isSingle, Bool.and_false, Bool.false_eq_true, iff_false]
    rintro ⟨-, body, whole, starts⟩
    obtain ⟨c, own, isOwn⟩ := List.exists_cons_of_ne_nil (text_ne_nil (.simple it))
    rw [isOwn, List.cons_append] at whole
    obtain ⟨rfl, rfl⟩ := List.cons.inj whole
    rw [startsWithName_append areNames_stripped stops] at starts
    have apart := isSearchFor_stripped.head_of_begins starts
    have found := (isSearchFor_stripped.isSome_cons_iff apart).mpr starts
    rw [show (simple it).bare = ':' :: own from isOwn, occursIn, found] at clear
    cases clear
  | untold pseudo =>
    have starts := pseudo.startsWithName_spelling stops
    rw [Meets, text, Untold.text, List.append_assoc, isSingle]
    cases pseudo.double with
    | false => simp [colons, starts]
    | true =>
      simp only [Bool.not_true, Bool.and_false, Bool.false_eq_true, iff_false]
      rintro ⟨-, body, whole, found⟩
      obtain ⟨-, rfl⟩ := List.cons.inj whole
      exact isSearchFor_stripped.head_of_begins found rfl

theorem cutOut_text (part : Part) (stops : Stops rest)
    : cutOut afterStripped? (part.text ++ rest) = cutOut afterStripped? (part.bare ++ rest) := by
  cases part with
  | simple it => rfl
  | untold pseudo => exact pseudo.cutOut_text stops

theorem keepsIf_cutOut_texts (stops : Stops rest) (apart : rest.head? ≠ some ':')
    (before : List Char) (parts : List Part)
    : KeepsIf
        ((∀ text ∈ before :: parts.map (·.bare), occursIn afterStripped? text = false)
          ∧ collide before parts = false)
        (before ++ (parts.flatMap (·.bare) ++ cutOut afterStripped? rest))
        (cutOut afterStripped? (before ++ (parts.flatMap (·.text) ++ rest))) := by
  induction parts generalizing before with
  | nil =>
    refine (keepsIf_cutOut stops before).congr ?_
    have none : ¬Meets before rest := by
      rintro ⟨-, body, rfl, -⟩
      exact apart rfl
    simp [none, collide]
  | cons part parts ih =>
    have stops := stops_texts stops parts
    have first := keepsIf_cutOut (part.stops_text (parts.flatMap (·.text) ++ rest)) before
    have second := ih part.bare
    rw [← part.cutOut_text stops] at second
    simp only [List.flatMap_cons, List.append_assoc]
    refine (first.append second).congr ?_
    simp only [List.map_cons, List.forall_mem_cons, collide, Bool.or_eq_false_iff]
    constructor
    · rintro ⟨⟨own, apart⟩, ⟨bare, others⟩, behind⟩
      rw [meets_iff bare stops] at apart
      exact ⟨⟨own, bare, others⟩, Bool.eq_false_iff.mpr apart, behind⟩
    · rintro ⟨⟨own, bare, others⟩, apart, behind⟩
      refine ⟨⟨own, ?_⟩, ⟨bare, others⟩, behind⟩
      rw [meets_iff bare stops, apart]
      exact Bool.false_ne_true

/-- What no untold pseudo holds is found in the texts one by one. -/
theorem occursIn_texts {begins : List Char → Prop} {after? : List Char → Option (List Char)}
    (search : IsSearchFor begins after?) (stops : Stops rest) {parts : List Part}
    (untold : ∀ pseudo, .untold pseudo ∈ parts → occursIn after? pseudo.text = false)
    : occursIn after? (parts.flatMap (·.text) ++ rest)
      = (parts.any (occursIn after? ·.bare) || occursIn after? rest) := by
  induction parts with
  | nil => rfl
  | cons part parts ih =>
    have own : occursIn after? part.text = occursIn after? part.bare := by
      cases part with
      | simple it => rfl
      | untold pseudo => exact untold pseudo List.mem_cons_self
    have others := ih fun pseudo member => untold pseudo (List.mem_cons_of_mem _ member)
    rw [List.flatMap_cons, List.append_assoc,
      search.occursIn_append part.text (stops_texts stops parts), others, own, List.any_cons,
      Bool.or_assoc]

end Part

--------------------------------------------------------------------------------
-- Compounds
--------------------------------------------------------------------------------

theorem Letter.text_ne_nil (letter : Letter) : letter.text ≠ [] := by
  cases letter <;> simp [Letter.text]

theorem Identifier.text_ne_nil (name : Identifier) : name.text ≠ [] := by
  obtain ⟨letter, letters, isName⟩ := List.exists_cons_of_ne_nil name.some
  simp [Identifier.text, isName, Letter.text_ne_nil]

theorem Element.text_ne_nil (element : Element) : element.text ≠ [] := by
  rw [Element.text]
  cases element.type with
  | none => simp
  | some name => simp [Identifier.text_ne_nil]

namespace Compound

theorem text_ne_nil (compound : Compound) : compound.text ≠ [] := by
  rw [text, ne_eq, List.append_eq_nil_iff, not_and_or]
  rcases compound.filled with element | parts
  · obtain ⟨own, isElement⟩ := Option.ne_none_iff_exists'.mp element
    exact .inl (by simp [front, isElement, Element.text_ne_nil])
  · obtain ⟨part, others, isParts⟩ := List.exists_cons_of_ne_nil parts
    exact .inr (by simp [isParts, Part.text_ne_nil])

/-- The texts of the element and of the simple selectors that stay. -/
def pieces (compound : Compound) : List (List Char) :=
  compound.front :: compound.parts.map (·.bare)

/-- Nothing is taken for a pseudo that no page tells but those that the compound has, and nothing
for one of a vendor. -/
structure IsUnmistaken (compound : Compound) : Prop where
  unstripped : ∀ piece ∈ compound.pieces, occursIn afterStripped? piece = false
  apart : Part.collide compound.front compound.parts = false
  noVendor : ∀ piece ∈ compound.pieces, occursIn afterVendor? piece = false

theorem keepsIf_cutOut (compound : Compound) (stops : Stops rest)
    (apart : rest.head? ≠ some ':')
    : KeepsIf
        ((∀ piece ∈ compound.pieces, occursIn afterStripped? piece = false)
          ∧ Part.collide compound.front compound.parts = false)
        (compound.bare ++ cutOut afterStripped? rest)
        (cutOut afterStripped? (compound.text ++ rest)) := by
  rw [bare, text, List.append_assoc, List.append_assoc]
  exact Part.keepsIf_cutOut_texts stops apart compound.front compound.parts

/-- What no untold pseudo of the compound holds is found in its pieces. -/
theorem occursIn_eq_false_iff {begins : List Char → Prop}
    {after? : List Char → Option (List Char)} (compound : Compound)
    (search : IsSearchFor begins after?)
    (untold : ∀ pseudo, .untold pseudo ∈ compound.parts → occursIn after? pseudo.text = false)
    (stops : Stops rest)
    : occursIn after? (compound.text ++ rest) = false
      ↔ (∀ piece ∈ compound.pieces, occursIn after? piece = false)
        ∧ occursIn after? rest = false := by
  rw [text, List.append_assoc,
    search.occursIn_append _ (Part.stops_texts stops compound.parts),
    Part.occursIn_texts search stops untold]
  simp [pieces, and_assoc]

theorem occursIn_vendor_eq_false_iff (compound : Compound) (stops : Stops rest)
    : occursIn afterVendor? (compound.text ++ rest) = false
      ↔ (∀ piece ∈ compound.pieces, occursIn afterVendor? piece = false)
        ∧ occursIn afterVendor? rest = false :=
  compound.occursIn_eq_false_iff isSearchFor_vendor (fun pseudo _ => pseudo.occursIn_vendor) stops

end Compound

end Written

end CriticalCss.Selector
