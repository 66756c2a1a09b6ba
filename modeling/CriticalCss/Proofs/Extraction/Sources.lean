import CriticalCss.Proofs.Extraction.Release
import CriticalCss.Proofs.Text.Decoding

/-! Where the text of a style sheet comes from, and what happens if there is none. The text of the
request counts unless it is blank, then the file that it names. Whatever stands in the way of the
file tells the caller that the input is bad, but for two things that nothing looks after: bytes that
are no text, and a path that no file can have. Nothing is launched before there is a text.
-/

namespace CriticalCss.Extraction

open Browser (Pool)
open Text.Utf8 (IsUtf8)

--------------------------------------------------------------------------------
-- Texts
--------------------------------------------------------------------------------

/-- The text that a request is about: its own if that is not blank, otherwise that of the file that
it names, with line feeds for all line ends. A blank text is none. -/
inductive IsSheet (files : Files.Tree) (request : Request) : String → Prop where
  | own {text : String} (has : request.css = some text) (filled : Text.allBlank text = false)
    : IsSheet files request text
  | read {name : String} {chars : List Char}
    (ownBlank : ∀ own ∈ request.css, Text.allBlank own = true)
    (names : request.cssPath = some name) (named : name.isEmpty = false)
    (usable : isUsablePath name = true)
    (holds : files.bytes (.ofText name) = .ok (chars.flatMap String.utf8EncodeChar))
    (filled : Text.allBlank (String.ofList (Files.Tree.unifyLines chars)) = false)
    : IsSheet files request (String.ofList (Files.Tree.unifyLines chars))

/-- Nothing but its contents keeps the file of a request from being read as text: the request has a
text of its own, or names no file, or its path is one that a file can have and the bytes of the
file, if there is one, are the UTF-8 form of some text. -/
def IsReadable (files : Files.Tree) (request : Request) : Prop :=
  (∃ own ∈ request.css, Text.allBlank own = false)
  ∨ ∀ name ∈ request.cssPath, name.isEmpty = false →
      isUsablePath name = true
      ∧ ∀ bytes, files.bytes (.ofText name) = .ok bytes → IsUtf8 bytes

theorem IsSheet.isReadable {files : Files.Tree} {request : Request} {text : String}
    (isSheet : IsSheet files request text)
    : IsReadable files request := by
  cases isSheet with
  | own has filled => exact .inl ⟨text, has, filled⟩
  | @read name chars ownBlank names named usable holds filled =>
    refine .inr fun other isOther _ => ?_
    obtain rfl := Option.some.inj (names.symm.trans isOther)
    exact ⟨usable, fun bytes found => ⟨chars, Except.ok.inj (found.symm.trans holds)⟩⟩

/-- The text that a request is about is found. -/
theorem IsSheet.source {files : Files.Tree} {request : Request} {text : String}
    (isSheet : IsSheet files request text)
    : Source.of files request = ⟨.ok text, []⟩ := by
  cases isSheet with
  | own has filled => simp [Source.of, has, filled, Option.filter]
  | @read name chars ownBlank names named usable holds filled =>
    have noOwn : (request.css.filter fun text => !Text.allBlank text) = none := by
      simpa [Option.filter_eq_none_iff] using ownBlank
    have decoded := Text.Utf8.decode_eq_ok_iff.mpr (Eq.refl (chars.flatMap String.utf8EncodeChar))
    rw [Source.of, noOwn]
    simp [names, named, Option.filter, Source.ofFile, usable, holds, decoded, filled]

section Runs

variable {conditions : Conditions} {request : Request}

end Runs

end CriticalCss.Extraction
