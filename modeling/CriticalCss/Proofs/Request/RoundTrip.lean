import CriticalCss.Proofs.Request.Acceptance

/-! Writing a request out and reading it again. Everything that a caller has left open is settled in
what is written, so all of it is checked when it is read, be it from the caller or from the
configuration. A request that passes comes back as it was.
-/

namespace CriticalCss

open Input

--------------------------------------------------------------------------------
-- Values
--------------------------------------------------------------------------------

namespace Input

variable {α : Type}

/-- What was written is read as the value that it was written for, just if that passes a test. -/
def Echoes (read : Json → Checked α) (written : Json) (value : α) (passes : Prop) : Prop :=
  ∀ result, read written = .ok result ↔ result = value ∧ passes

theorem echoes_of_ok {read : Json → Checked α} {written : Json} {value : α}
    (found : read written = .ok value)
    : Echoes read written value True := by
  intro result
  rw [found, Checked.ok.injEq, and_true, eq_comm]

theorem echoes_filledText (text : String)
    : Echoes filledText (.str text) text (text.isEmpty = false) := by
  intro result
  cases empty : text.isEmpty <;>
    simp [filledText, wholeText, Input.text, Checked.andThen, Checked.fail, empty, eq_comm]

theorem echoes_numberAbove (bound number : Int)
    : Echoes (numberAbove bound) (.int number) number (bound < number) := by
  intro result
  by_cases above : bound < number <;>
    simp [numberAbove, Input.number, Checked.andThen, Checked.fail, above, eq_comm]

theorem echoes_numberFrom (bound number : Int)
    : Echoes (numberFrom bound) (.int number) number (bound ≤ number) := by
  intro result
  by_cases within : bound ≤ number <;>
    simp [numberFrom, Input.number, Checked.andThen, Checked.fail, within, eq_comm]

theorem echoes_optionalText (text : Option String)
    : Echoes (optional Input.text) (Json.ofString? text) text True := by
  cases text <;> exact echoes_of_ok rfl

theorem echoes_optionalNumberAbove (bound : Int) (number : Option Int)
    : Echoes (optional (numberAbove bound)) (Json.ofInt? number) number
        (∀ value ∈ number, bound < value) := by
  cases number with
  | none =>
    intro result
    simp [optional, Json.ofInt?, eq_comm]
  | some number =>
    intro result
    by_cases above : bound < number <;>
      simp [optional, Json.ofInt?, numberAbove, Input.number, Checked.andThen, Checked.fail,
        Checked.map, above, eq_comm]

/-- A table is read member by member. -/
theorem tableOf_eq_ok {read : Json → Checked α} {write : α → Json} {entries : List (String × α)}
    (own : ∀ value, read (write value) = .ok value)
    : tableOf read (.obj (entries.map fun entry => (entry.1, write entry.2))) = .ok entries := by
  unfold tableOf
  induction entries with
  | nil => rfl
  | cons entry rest ih =>
    simp only [List.map_cons, Checked.all, own, ih]
    rfl

theorem list_text_strings (sources : List String)
    : list Input.text (Json.strings sources) = .ok sources := by
  have items (index : Nat)
      : Checked.all (itemsFrom Input.text index (sources.map .str)) = .ok sources := by
    induction sources generalizing index with
    | nil => rfl
    | cons source rest ih =>
      simp only [List.map_cons, itemsFrom, Checked.all, ih]
      rfl
  exact items 0

section Fields

variable {json written : Json} {name : String} {default value result : α} {passes : Prop}
  {read : Json → Checked α}

theorem Checked.inside_eq_ok_iff {step : Step} {a : Checked α}
    : a.inside step = .ok result ↔ a = .ok result := by
  refine ⟨inside_eq_ok, fun same => ?_⟩
  rw [same]
  rfl

/-- A field is read as what is written in it. -/
theorem Echoes.field_iff (echoes : Echoes read written value passes)
    (found : json.get? name = some written)
    : field json name default read = .ok result ↔ result = value ∧ passes := by
  rw [field, found, ← echoes]
  exact Checked.inside_eq_ok_iff

theorem Echoes.requiredField_iff (echoes : Echoes read written value passes)
    (found : json.get? name = some written)
    : requiredField json name read = .ok result ↔ result = value ∧ passes := by
  rw [requiredField, found, ← echoes]
  exact Checked.inside_eq_ok_iff

end Fields

end Input

--------------------------------------------------------------------------------
-- Patterns and entries
--------------------------------------------------------------------------------

/-- The entry is ready, and its letters are those of options. -/
structure ForceInclude.Entry.Fine (entry : Entry) : Prop where
  ready : entry.Ready
  letters : Request.areOptionLetters entry.flags = true

namespace Request

open ForceInclude

theorem checkPattern_eq_ok_none_iff {what source : String}
    : checkPattern what source = .ok none ↔ Pattern.Compiles source := by
  refine ⟨compiles_of_checkPattern, fun ⟨pattern, compiled⟩ => ?_⟩
  rw [checkPattern, compiled]

theorem checkPatterns_of_compiles {sources : List String}
    (compile : ∀ source ∈ sources, Pattern.Compiles source)
    : checkPatterns sources = .ok (.ok ()) := by
  induction sources with
  | nil => rfl
  | cons source rest ih =>
    rw [List.forall_mem_cons] at compile
    rw [checkPatterns, checkPattern_eq_ok_none_iff.mpr compile.1]
    exact ih compile.2

/-- Patterns are read as they are written, just if all of them compile. -/
theorem readUnwanted_strings_iff {sources result : List String}
    : readUnwanted (Json.strings sources) = .ok (.ok result)
      ↔ result = sources ∧ ∀ source ∈ sources, Pattern.Compiles source := by
  have looked
      : readUnwanted (Json.strings sources)
        = (do return (← checkPatterns sources).map fun _ => sources) := by
    rw [readUnwanted, list_text_strings]
  constructor
  · intro read
    have compile := compiles_of_readUnwanted read
    rw [looked] at read
    obtain ⟨checked, _, fine⟩ := exists_ok_of_bind read
    obtain ⟨_, _, rfl⟩ := Checked.map_eq_ok (Except.ok.inj fine)
    exact ⟨rfl, compile⟩
  · rintro ⟨rfl, compile⟩
    rw [looked, checkPatterns_of_compiles compile]
    rfl

/-- The letters of an entry that is not objected to are those of options. -/
theorem fine_of_checkEntry {draft : Draft} {entry : Entry}
    (checked : checkEntry draft = .ok (.ok entry))
    : entry.Fine := by
  refine ⟨ready_of_checkEntry checked, ?_⟩
  have letters {found : Entry}
      (read : (Entry.mk draft.kind <$> (text draft.value).inside (.field "value")
        <*> (readLetters draft.flags).inside (.field "flags")) = .ok found)
      : areOptionLetters found.flags = true := by
    obtain ⟨_, flags, made, fine, rfl⟩ := Checked.seq_eq_ok read
    obtain ⟨value, _, rfl⟩ := Checked.functorMap_eq_ok made
    have fine := Checked.inside_eq_ok fine
    unfold readLetters Checked.andThen at fine
    split at fine
    · dsimp only at fine
      split at fine
      · rename_i own
        cases fine
        exact own
      · cases fine
    · cases fine
  unfold checkEntry at checked
  dsimp only at checked
  split at checked
  · cases checked
  · rename_i found read
    have own := letters read
    split at checked
    · cases checked
      exact own
    · obtain ⟨objection, _, fine⟩ := exists_ok_of_bind checked
      cases objection with
      | some reason => cases fine
      | none =>
        cases fine
        exact own

/-- With letters of options all that is left to check of an entry is its pattern. -/
theorem checkEntry_ofEntry {entry : Entry} (own : areOptionLetters entry.flags = true)
    : checkEntry (Draft.ofEntry entry)
      = match entry.kind with
        | .exact => .ok (.ok entry)
        | .pattern => do
          match ← checkPattern "force include" entry.value with
          | none => return .ok entry
          | some reason => return .fail (.rejected reason) := by
  have letters : readLetters (.str entry.flags) = .ok entry.flags := by
    simp [readLetters, wholeText, text, Checked.andThen, own]
  unfold checkEntry Draft.ofEntry
  rw [letters]
  rfl

/-- An entry is read as it is written, just if it is fine. -/
theorem checkEntry_ofEntry_iff {entry result : Entry}
    : checkEntry (Draft.ofEntry entry) = .ok (.ok result) ↔ result = entry ∧ entry.Fine := by
  by_cases own : areOptionLetters entry.flags = true
  · rw [checkEntry_ofEntry own]
    constructor
    · intro checked
      split at checked
      · rename_i isExact
        cases checked
        have ready : entry.Ready := fun isPattern => by cases isExact.symm.trans isPattern
        exact ⟨rfl, ready, own⟩
      · obtain ⟨objection, looked, fine⟩ := exists_ok_of_bind checked
        cases objection with
        | some reason => cases fine
        | none =>
          cases fine
          have ready : entry.Ready := fun _ => checkPattern_eq_ok_none_iff.mp looked
          exact ⟨rfl, ready, own⟩
    · rintro ⟨rfl, fine⟩
      split
      · rfl
      · rename_i isPattern
        rw [checkPattern_eq_ok_none_iff.mpr (fine.ready isPattern)]
        rfl
  · have letters : readLetters (.str entry.flags) = .fail .unknownLetter := by
      simp [readLetters, wholeText, text, Checked.andThen, own]
    refine ⟨fun checked => ?_, fun fine => absurd fine.2.letters own⟩
    unfold checkEntry Draft.ofEntry at checked
    rw [letters] at checked
    cases checked

theorem ofJson_toJson (entry : Entry) : Draft.ofJson entry.toJson = .ok (Draft.ofEntry entry) := by
  obtain ⟨kind, value, flags⟩ := entry
  cases kind <;> rfl

theorem checkEntries_ofEntries_iff {entries result : List Entry} {index : Nat}
    : (∃ checked,
        checkEntries index (entries.map Draft.ofEntry) = .ok checked
        ∧ Checked.all checked = .ok result)
      ↔ result = entries ∧ ∀ entry ∈ entries, entry.Fine := by
  induction entries generalizing index result with
  | nil =>
    constructor
    · rintro ⟨checked, looked, all⟩
      cases looked
      cases all
      exact ⟨rfl, by simp⟩
    · rintro ⟨rfl, -⟩
      exact ⟨[], rfl, rfl⟩
  | cons entry rest ih =>
    rw [List.forall_mem_cons]
    constructor
    · rintro ⟨checked, looked, all⟩
      obtain ⟨first, lookedFirst, looked⟩ := exists_ok_of_bind looked
      obtain ⟨others, lookedRest, together⟩ := exists_ok_of_bind looked
      cases together
      obtain ⟨_, found, made, allRest, rfl⟩ := Checked.seq_eq_ok all
      obtain ⟨own, inPlace, rfl⟩ := Checked.map_eq_ok made
      rw [Checked.inside_eq_ok inPlace, checkEntry_ofEntry_iff] at lookedFirst
      obtain ⟨rfl, fine⟩ := lookedFirst
      obtain ⟨rfl, fineRest⟩ := ih.mp ⟨others, lookedRest, allRest⟩
      exact ⟨rfl, fine, fineRest⟩
    · rintro ⟨rfl, fine, fineRest⟩
      obtain ⟨others, looked, all⟩ := ih.mpr ⟨rfl, fineRest⟩
      refine ⟨.ok entry :: others, ?_, ?_⟩
      · rw [List.map_cons, checkEntries, checkEntry_ofEntry_iff.mpr ⟨rfl, fine⟩, looked]
        rfl
      · rw [Checked.all, all]
        rfl

/-- Entries are read as they are written, just if all of them are fine. -/
theorem readEntries_toJson_iff {entries result : List Entry}
    : readEntries (.arr (entries.map (·.toJson))) = .ok (.ok result)
      ↔ result = entries ∧ ∀ entry ∈ entries, entry.Fine := by
  have drafts : (entries.map (·.toJson)).mapM Draft.ofJson = .ok (entries.map Draft.ofEntry) := by
    induction entries with
    | nil => rfl
    | cons entry rest ih =>
      rw [List.map_cons, List.mapM_cons, ofJson_toJson, ih]
      rfl
  have looked
      : readEntries (.arr (entries.map (·.toJson)))
        = (do return .all (← checkEntries 0 (entries.map Draft.ofEntry))) := by
    have parts : entryParts (.arr (entries.map (·.toJson))) = .ok (entries.map (·.toJson)) := rfl
    simp only [readEntries, parts, bind, Except.bind, drafts]
  rw [looked, ← checkEntries_ofEntries_iff]
  constructor
  · intro read
    obtain ⟨checked, found, all⟩ := exists_ok_of_bind read
    exact ⟨checked, found, Except.ok.inj all⟩
  · rintro ⟨checked, found, all⟩
    rw [found, ← all]
    rfl

--------------------------------------------------------------------------------
-- Requests
--------------------------------------------------------------------------------

theorem fieldOrRefusal_iff {α : Type} {json written : Json} {name : String} {default result : α}
    {readField : Json → Except Refusal (Checked α)} (found : json.get? name = some written)
    : fieldOrRefusal json name default readField = .ok (.ok result)
      ↔ readField written = .ok (.ok result) := by
  constructor
  · intro fine
    rcases fieldOrRefusal_eq_ok fine with ⟨member, same, read⟩ | ⟨absent, -⟩
    · rwa [Option.some.inj (found.symm.trans same)]
    · cases found.symm.trans absent
  · intro read
    rw [fieldOrRefusal, found]
    dsimp only
    rw [read]
    rfl

/-- A request whose fields are fine is accepted. -/
theorem read_of_fields {config : Config} {json : Json} {request : Request}
    (fields : Fields config json request)
    : read config json = .ok request := by
  unfold read
  simp only [fields.forceInclude, fields.unwanted, fields.url, fields.css, fields.cssPath,
    fields.width, fields.height, fields.strict, fields.timeout, fields.settling, fields.loadLimit,
    fields.blockScripts, fields.headers, fields.keepLarger, fields.maxElements,
    fields.payloadLimit, fields.userAgent]
  exact if_pos fields.sheet

/-- What the configuration fills in where a caller leaves it open keeps within the bounds that are
set for callers. -/
structure WithinBounds (request : Request) : Prop where
  width : 0 < request.viewport.width
  height : 0 < request.viewport.height
  timeout : 0 < request.timeout
  settling : 0 ≤ request.settling
  unwanted : ∀ source ∈ request.unwanted, Pattern.Compiles source
  payloadLimit : 0 ≤ request.payloadLimit

/-- Everything in a request is what a caller could have sent. -/
structure Valid (request : Request) : Prop extends WithinBounds request where
  url : request.url.isEmpty = false
  forceInclude : ∀ entry ∈ request.forceInclude, entry.Fine
  loadLimit : ∀ limit ∈ request.loadLimit, 0 < limit
  maxElements : ∀ count ∈ request.maxElements, 0 < count
  sheet : namesSheet request

attribute [ext] Viewport Request

/-- What is written of a request has the fields of that request, just if it is valid. -/
theorem fields_toJson_iff {config : Config} {request result : Request}
    : Fields config request.toJson result ↔ result = request ∧ request.Valid := by
  have choices (value : Bool) : Echoes choice (.bool value) value True := echoes_of_ok rfl
  have texts (value : String) : Echoes text (.str value) value True := echoes_of_ok rfl
  have headers : Echoes table (tableJson request.headers) request.headers True :=
    echoes_of_ok (tableOf_eq_ok fun _ => rfl)
  constructor
  · intro fields
    obtain ⟨url, filled⟩ := ((echoes_filledText request.url).requiredField_iff rfl).mp fields.url
    obtain ⟨css, -⟩ := ((echoes_optionalText request.css).field_iff rfl).mp fields.css
    obtain ⟨cssPath, -⟩ := ((echoes_optionalText request.cssPath).field_iff rfl).mp fields.cssPath
    obtain ⟨width, widthAbove⟩ :=
      ((echoes_numberAbove 0 request.viewport.width).field_iff rfl).mp fields.width
    obtain ⟨height, heightAbove⟩ :=
      ((echoes_numberAbove 0 request.viewport.height).field_iff rfl).mp fields.height
    obtain ⟨forceInclude, fine⟩ :=
      readEntries_toJson_iff.mp ((fieldOrRefusal_iff rfl).mp fields.forceInclude)
    obtain ⟨strict, -⟩ := ((choices request.strict).field_iff rfl).mp fields.strict
    obtain ⟨timeout, timeoutAbove⟩ :=
      ((echoes_numberAbove 0 request.timeout).field_iff rfl).mp fields.timeout
    obtain ⟨settling, settlingFrom⟩ :=
      ((echoes_numberFrom 0 request.settling).field_iff rfl).mp fields.settling
    obtain ⟨loadLimit, loadLimitAbove⟩ :=
      ((echoes_optionalNumberAbove 0 request.loadLimit).field_iff rfl).mp fields.loadLimit
    obtain ⟨blockScripts, -⟩ := ((choices request.blockScripts).field_iff rfl).mp fields.blockScripts
    obtain ⟨headers, -⟩ := (headers.field_iff rfl).mp fields.headers
    obtain ⟨keepLarger, -⟩ := ((choices request.keepLarger).field_iff rfl).mp fields.keepLarger
    obtain ⟨maxElements, maxElementsAbove⟩ :=
      ((echoes_optionalNumberAbove 0 request.maxElements).field_iff rfl).mp fields.maxElements
    obtain ⟨unwanted, compile⟩ :=
      readUnwanted_strings_iff.mp ((fieldOrRefusal_iff rfl).mp fields.unwanted)
    obtain ⟨payloadLimit, payloadLimitFrom⟩ :=
      ((echoes_numberFrom 0 request.payloadLimit).field_iff rfl).mp fields.payloadLimit
    obtain ⟨userAgent, -⟩ := ((texts request.userAgent).field_iff rfl).mp fields.userAgent
    have same : result = request :=
      Request.ext url css cssPath (Viewport.ext width height) forceInclude strict timeout settling
        loadLimit blockScripts headers keepLarger maxElements unwanted payloadLimit userAgent
    exact ⟨same, {
      url := filled, width := widthAbove, height := heightAbove, forceInclude := fine
      timeout := timeoutAbove, settling := settlingFrom, loadLimit := loadLimitAbove
      maxElements := maxElementsAbove, unwanted := compile, payloadLimit := payloadLimitFrom
      sheet := same ▸ fields.sheet }⟩
  · rintro ⟨rfl, valid⟩
    exact {
      url := ((echoes_filledText _).requiredField_iff rfl).mpr ⟨rfl, valid.url⟩
      css := ((echoes_optionalText _).field_iff rfl).mpr ⟨rfl, trivial⟩
      cssPath := ((echoes_optionalText _).field_iff rfl).mpr ⟨rfl, trivial⟩
      width := ((echoes_numberAbove 0 _).field_iff rfl).mpr ⟨rfl, valid.width⟩
      height := ((echoes_numberAbove 0 _).field_iff rfl).mpr ⟨rfl, valid.height⟩
      forceInclude :=
        (fieldOrRefusal_iff rfl).mpr (readEntries_toJson_iff.mpr ⟨rfl, valid.forceInclude⟩)
      strict := ((choices _).field_iff rfl).mpr ⟨rfl, trivial⟩
      timeout := ((echoes_numberAbove 0 _).field_iff rfl).mpr ⟨rfl, valid.timeout⟩
      settling := ((echoes_numberFrom 0 _).field_iff rfl).mpr ⟨rfl, valid.settling⟩
      loadLimit := ((echoes_optionalNumberAbove 0 _).field_iff rfl).mpr ⟨rfl, valid.loadLimit⟩
      blockScripts := ((choices _).field_iff rfl).mpr ⟨rfl, trivial⟩
      headers := (headers.field_iff rfl).mpr ⟨rfl, trivial⟩
      keepLarger := ((choices _).field_iff rfl).mpr ⟨rfl, trivial⟩
      maxElements := ((echoes_optionalNumberAbove 0 _).field_iff rfl).mpr ⟨rfl, valid.maxElements⟩
      unwanted :=
        (fieldOrRefusal_iff rfl).mpr (readUnwanted_strings_iff.mpr ⟨rfl, valid.unwanted⟩)
      payloadLimit := ((echoes_numberFrom 0 _).field_iff rfl).mpr ⟨rfl, valid.payloadLimit⟩
      userAgent := ((texts _).field_iff rfl).mpr ⟨rfl, trivial⟩
      sheet := valid.sheet }

/-- A request that is written out is read as it was, just if it is valid, and as no other. -/
theorem read_toJson_iff {config : Config} {request result : Request}
    : read config request.toJson = .ok result ↔ result = request ∧ request.Valid :=
  ⟨fun accepted => fields_toJson_iff.mp (fields_of_read accepted),
    fun same => read_of_fields (fields_toJson_iff.mpr same)⟩

theorem filled_of_filledText {json : Json} {text : String} (read : filledText json = .ok text)
    : text.isEmpty = false := by
  unfold filledText Checked.andThen at read
  split at read
  · dsimp only at read
    split at read
    · cases read
    · rename_i filled
      cases read
      exact Bool.eq_false_iff.mpr filled
  · cases read

theorem above_of_optional {bound : Int} {json : Json} {number : Option Int}
    (read : optional (numberAbove bound) json = .ok number)
    : ∀ value ∈ number, bound < value := by
  unfold Input.optional at read
  split at read
  · cases read
    simp
  · obtain ⟨value, found, rfl⟩ := Checked.map_eq_ok read
    unfold numberAbove Checked.andThen at found
    split at found
    · dsimp only at found
      split at found
      · rename_i above
        cases found
        simpa using above
      · cases found
    · cases found

/-- A field holds its default or what is read from it. -/
theorem field_eq_ok {α : Type} {json : Json} {name : String} {default value : α}
    {readField : Json → Checked α} (fine : field json name default readField = .ok value)
    : (∃ member, readField member = .ok value) ∨ value = default := by
  unfold field at fine
  split at fine
  · exact .inl ⟨_, Checked.inside_eq_ok fine⟩
  · cases fine
    exact .inr rfl

/-- An accepted request is valid if what the configuration has filled in keeps within the bounds. -/
theorem Fields.valid {config : Config} {json : Json} {request : Request}
    (fields : Fields config json request) (within : request.WithinBounds)
    : request.Valid where
  toWithinBounds := within
  url := by
    have url := fields.url
    unfold requiredField at url
    split at url
    · exact filled_of_filledText (Checked.inside_eq_ok url)
    · cases url
  forceInclude := by
    rcases fieldOrRefusal_eq_ok fields.forceInclude with ⟨member, _, read⟩ | ⟨_, none⟩
    · exact forall_of_readEntries (fun _ _ => fine_of_checkEntry) read
    · rw [none]
      simp
  loadLimit := by
    rcases field_eq_ok fields.loadLimit with ⟨member, read⟩ | none
    · exact above_of_optional read
    · rw [none]
      simp
  maxElements := by
    rcases field_eq_ok fields.maxElements with ⟨member, read⟩ | none
    · exact above_of_optional read
    · rw [none]
      simp
  sheet := fields.sheet

end Request

end CriticalCss
