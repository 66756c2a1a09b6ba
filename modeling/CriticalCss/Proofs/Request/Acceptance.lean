import CriticalCss.Request.Reader
import CriticalCss.Tidy

/-! What accepting a request guarantees of its patterns. They are checked without options and used
with some; whether a pattern can be read does not depend on that. What the configuration has for
requests that name no properties is not checked with the request.
-/

namespace CriticalCss

open Input

--------------------------------------------------------------------------------
-- Steps that can fail
--------------------------------------------------------------------------------

theorem isOk_iff_exists {ε α : Type} {step : Except ε α}
    : step.isOk = true ↔ ∃ value, step = .ok value := by
  cases step <;> simp [Except.isOk, Except.toBool]

/-- Two steps that can fail succeed only if both do. -/
theorem exists_ok_of_bind {ε α β : Type} {first : Except ε α} {next : α → Except ε β} {result : β}
    (success : first >>= next = .ok result)
    : ∃ value, first = .ok value ∧ next value = .ok result := by
  cases first with
  | error fault => cases success
  | ok value => exact ⟨value, rfl, success⟩

--------------------------------------------------------------------------------
-- Patterns
--------------------------------------------------------------------------------

/-- Can the pattern be compiled? -/
def Pattern.Compiles (source : String) : Prop :=
  ∃ pattern, Pattern.compile source {} = .ok pattern

instance : DecidablePred Pattern.Compiles :=
  fun _ => decidable_of_iff _ isOk_iff_exists

/-- Whether a pattern compiles does not depend on the options. -/
theorem Pattern.exists_compile_iff {source : String} (options : Options)
    : (∃ pattern, Pattern.compile source options = .ok pattern) ↔ Compiles source := by
  unfold Compiles Pattern.compile
  split
  · exact ⟨fun _ => ⟨_, rfl⟩, fun _ => ⟨_, rfl⟩⟩
  · constructor <;> rintro ⟨pattern, compiled⟩ <;> cases compiled

/-- Patterns are ready for tidying just if each of them compiles. -/
theorem Tidy.exists_compilePatterns_iff {sources : List String}
    : (∃ patterns, Tidy.compilePatterns sources = .ok patterns)
      ↔ ∀ source ∈ sources, Pattern.Compiles source := by
  unfold Tidy.compilePatterns
  induction sources with
  | nil => exact ⟨fun _ => by simp, fun _ => ⟨[], rfl⟩⟩
  | cons source rest ih =>
    rw [List.forall_mem_cons, ← ih, ← Pattern.exists_compile_iff { ignoreCase := true },
      List.mapM_cons]
    constructor
    · rintro ⟨patterns, success⟩
      obtain ⟨pattern, compiled, success⟩ := exists_ok_of_bind success
      obtain ⟨others, found, _⟩ := exists_ok_of_bind success
      refine ⟨?_, others, found⟩
      split at compiled
      · rename_i pattern compiled'
        exact ⟨pattern, compiled'⟩
      · cases compiled
    · rintro ⟨⟨pattern, compiled⟩, others, found⟩
      exact ⟨pattern :: others, by rw [compiled, found]; rfl⟩

namespace ForceInclude

/-- The entry is a selector, or its pattern can be compiled. -/
def Entry.Ready (entry : Entry) : Prop :=
  entry.kind = .pattern → Pattern.Compiles entry.value

theorem exists_compilePatterns {entries : List Entry} (ready : ∀ entry ∈ entries, entry.Ready)
    : ∃ patterns, compilePatterns entries = .ok patterns := by
  induction entries with
  | nil => exact ⟨[], rfl⟩
  | cons entry rest ih =>
    obtain ⟨others, found⟩ := ih fun other member => ready other (List.mem_cons_of_mem _ member)
    unfold compilePatterns
    cases kind : entry.kind with
    | exact => exact ⟨others, found⟩
    | pattern =>
      obtain ⟨pattern, compiled⟩ := (Pattern.exists_compile_iff (optionsOf entry.flags)).mpr
        (ready entry List.mem_cons_self kind)
      exact ⟨pattern :: others, by simp only [Entry.compile, compiled, found]; rfl⟩

/-- Entries that are ready make a matcher, for the baseline holds no pattern. -/
theorem Matcher.exists_ofEntries {entries : List Entry} (ready : ∀ entry ∈ entries, entry.Ready)
    : ∃ matcher, Matcher.ofEntries entries = .ok matcher := by
  have all : ∀ entry ∈ baselineEntries ++ entries, entry.Ready := by
    intro entry member
    rcases List.mem_append.mp member with basic | own
    · obtain ⟨selector, _, rfl⟩ := List.mem_map.mp basic
      intro absurd
      cases absurd
    · exact ready entry own
  obtain ⟨patterns, found⟩ := exists_compilePatterns all
  exact ⟨_, by rw [Matcher.ofEntries, found]; rfl⟩

end ForceInclude

--------------------------------------------------------------------------------
-- Checked values
--------------------------------------------------------------------------------

namespace Input.Checked

variable {α β : Type}

/-- A function applied to a value is fine only if both are. -/
theorem seq_eq_ok {f : Checked (α → β)} {a : Checked α} {result : β} (fine : f <*> a = .ok result)
    : ∃ g value, f = .ok g ∧ a = .ok value ∧ result = g value := by
  cases f with
  | faulty problems => cases a <;> cases fine
  | ok g =>
    cases a with
    | faulty problems => cases fine
    | ok value =>
      cases fine
      exact ⟨g, value, rfl, rfl, rfl⟩

theorem functorMap_eq_ok {f : α → β} {a : Checked α} {result : β} (fine : f <$> a = .ok result)
    : ∃ value, a = .ok value ∧ result = f value := by
  cases a with
  | faulty problems => cases fine
  | ok value =>
    cases fine
    exact ⟨value, rfl, rfl⟩

theorem map_eq_ok {f : α → β} {a : Checked α} {result : β} (fine : a.map f = .ok result)
    : ∃ value, a = .ok value ∧ result = f value := by
  cases a with
  | faulty problems => cases fine
  | ok value =>
    cases fine
    exact ⟨value, rfl, rfl⟩

theorem inside_eq_ok {step : Step} {a : Checked α} {value : α} (fine : a.inside step = .ok value)
    : a = .ok value := by
  cases a with
  | faulty problems => cases fine
  | ok value =>
    cases fine
    rfl

/-- The values of a list are fine only if each of them is. -/
theorem all_eq_ok {checked : List (Checked α)} {values : List α} (fine : all checked = .ok values)
    : ∀ value ∈ values, .ok value ∈ checked := by
  induction checked generalizing values with
  | nil =>
    cases fine
    simp
  | cons first rest ih =>
    obtain ⟨g, others, mapped, fineRest, rfl⟩ := seq_eq_ok fine
    obtain ⟨value, rfl, rfl⟩ := map_eq_ok mapped
    intro other member
    rcases List.mem_cons.mp member with rfl | later
    · exact List.mem_cons_self
    · exact List.mem_cons_of_mem _ (ih fineRest other later)

end Input.Checked

namespace Request

open ForceInclude

--------------------------------------------------------------------------------
-- Checks
--------------------------------------------------------------------------------

/-- A pattern that is not objected to compiles. -/
theorem compiles_of_checkPattern {what source : String}
    (checked : checkPattern what source = .ok none)
    : Pattern.Compiles source := by
  unfold checkPattern at checked
  split at checked
  · rename_i pattern compiled
    exact ⟨pattern, compiled⟩
  · dsimp only at checked
    split at checked <;> cases checked

/-- Patterns that are not objected to compile. -/
theorem compiles_of_checkPatterns {sources : List String}
    (checked : checkPatterns sources = .ok (.ok ()))
    : ∀ source ∈ sources, Pattern.Compiles source := by
  induction sources with
  | nil => simp
  | cons source rest ih =>
    obtain ⟨objection, first, checkedRest⟩ := exists_ok_of_bind checked
    cases objection with
    | some reason => cases checkedRest
    | none =>
      intro other member
      rcases List.mem_cons.mp member with rfl | later
      · exact compiles_of_checkPattern first
      · exact ih checkedRest other later

/-- The patterns of unwanted properties are read only if they compile. -/
theorem compiles_of_readUnwanted {json : Json} {sources : List String}
    (read : readUnwanted json = .ok (.ok sources))
    : ∀ source ∈ sources, Pattern.Compiles source := by
  unfold readUnwanted at read
  split at read
  · cases read
  · obtain ⟨checked, looked, fine⟩ := exists_ok_of_bind read
    obtain ⟨_, rfl, rfl⟩ := Checked.map_eq_ok (Except.ok.inj fine)
    exact compiles_of_checkPatterns looked

/-- An entry that is not objected to is ready. -/
theorem ready_of_checkEntry {draft : Draft} {entry : Entry}
    (checked : checkEntry draft = .ok (.ok entry))
    : entry.Ready := by
  unfold checkEntry at checked
  dsimp only at checked
  split at checked
  · cases checked
  · split at checked
    · rename_i kind
      cases checked
      intro isPattern
      exact nomatch kind.symm.trans isPattern
    · obtain ⟨objection, looked, fine⟩ := exists_ok_of_bind checked
      cases objection with
      | some reason => cases fine
      | none =>
        cases fine
        exact fun _ => compiles_of_checkPattern looked

/-- What holds of every entry that is not objected to holds of all of them in a list. -/
theorem forall_of_checkEntries {P : Entry → Prop}
    (fine : ∀ draft entry, checkEntry draft = .ok (.ok entry) → P entry) {index : Nat}
    {drafts : List Draft} {checked : List (Checked Entry)}
    (found : checkEntries index drafts = .ok checked)
    : ∀ entry, .ok entry ∈ checked → P entry := by
  induction drafts generalizing index checked with
  | nil =>
    cases found
    simp
  | cons draft rest ih =>
    obtain ⟨first, looked, foundRest⟩ := exists_ok_of_bind found
    obtain ⟨others, lookedRest, together⟩ := exists_ok_of_bind foundRest
    cases together
    intro entry member
    rcases List.mem_cons.mp member with same | later
    · exact fine draft entry (looked.trans (congrArg _ (Checked.inside_eq_ok same.symm)))
    · exact ih lookedRest entry later

/-- The entries of selectors that are always kept are read only if there is no objection. -/
theorem forall_of_readEntries {P : Entry → Prop}
    (fine : ∀ draft entry, checkEntry draft = .ok (.ok entry) → P entry) {json : Json}
    {entries : List Entry} (read : readEntries json = .ok (.ok entries))
    : ∀ entry ∈ entries, P entry := by
  obtain ⟨parts, _, drafted⟩ := exists_ok_of_bind read
  split at drafted
  · cases drafted
  · cases drafted
  · obtain ⟨checked, found, together⟩ := exists_ok_of_bind drafted
    intro entry member
    exact forall_of_checkEntries fine found entry
      (Checked.all_eq_ok (Except.ok.inj together) entry member)

--------------------------------------------------------------------------------
-- Requests
--------------------------------------------------------------------------------

/-- What an accepted request has is what its fields are read as. -/
structure Fields (config : Config) (json : Json) (request : Request) : Prop where
  url : requiredField json "url" filledText = .ok request.url
  css : field json "css_string" none (optional text) = .ok request.css
  cssPath : field json "css_file_path" none (optional text) = .ok request.cssPath
  width : field json "width" config.viewport.width (numberAbove 0) = .ok request.viewport.width
  height : field json "height" config.viewport.height (numberAbove 0) = .ok request.viewport.height
  forceInclude :
    fieldOrRefusal json "force_include" [] readEntries = .ok (.ok request.forceInclude)
  strict : field json "strict" false choice = .ok request.strict
  timeout : field json "timeout" config.timeout (numberAbove 0) = .ok request.timeout
  settling : field json "render_wait_time" config.settling (numberFrom 0) = .ok request.settling
  loadLimit :
    field json "page_load_skip_timeout" none (optional (numberAbove 0)) = .ok request.loadLimit
  blockScripts :
    field json "block_js_requests" config.blockScripts choice = .ok request.blockScripts
  headers : field json "custom_page_headers" [] table = .ok request.headers
  keepLarger : field json "keep_larger_media_queries" false choice = .ok request.keepLarger
  maxElements :
    field json "max_elements_to_check_per_selector" none (optional (numberAbove 0))
      = .ok request.maxElements
  unwanted :
    fieldOrRefusal json "properties_to_remove" config.unwanted readUnwanted
      = .ok (.ok request.unwanted)
  payloadLimit :
    field json "max_embedded_base64_length" config.payloadLimit (numberFrom 0)
      = .ok request.payloadLimit
  userAgent : field json "user_agent" config.userAgent text = .ok request.userAgent
  sheet : namesSheet request

/-- A request is accepted only if each of its fields is. -/
theorem fields_of_read {config : Config} {json : Json} {request : Request}
    (accepted : read config json = .ok request)
    : Fields config json request := by
  obtain ⟨included, readIncluded, accepted⟩ := exists_ok_of_bind accepted
  obtain ⟨removed, readRemoved, accepted⟩ := exists_ok_of_bind accepted
  dsimp only at accepted
  split at accepted
  · cases accepted
  · rename_i fine
    -- The fields are peeled off one by one, the last of them first.
    obtain ⟨_, _, fine₁, userAgent, rfl⟩ := Checked.seq_eq_ok fine
    obtain ⟨_, _, fine₂, payloadLimit, rfl⟩ := Checked.seq_eq_ok fine₁
    obtain ⟨_, _, fine₃, rfl, rfl⟩ := Checked.seq_eq_ok fine₂
    obtain ⟨_, _, fine₄, maxElements, rfl⟩ := Checked.seq_eq_ok fine₃
    obtain ⟨_, _, fine₅, keepLarger, rfl⟩ := Checked.seq_eq_ok fine₄
    obtain ⟨_, _, fine₆, headers, rfl⟩ := Checked.seq_eq_ok fine₅
    obtain ⟨_, _, fine₇, blockScripts, rfl⟩ := Checked.seq_eq_ok fine₆
    obtain ⟨_, _, fine₈, loadLimit, rfl⟩ := Checked.seq_eq_ok fine₇
    obtain ⟨_, _, fine₉, settling, rfl⟩ := Checked.seq_eq_ok fine₈
    obtain ⟨_, _, fine₁₀, timeout, rfl⟩ := Checked.seq_eq_ok fine₉
    obtain ⟨_, _, fine₁₁, strict, rfl⟩ := Checked.seq_eq_ok fine₁₀
    obtain ⟨_, _, fine₁₂, rfl, rfl⟩ := Checked.seq_eq_ok fine₁₁
    obtain ⟨_, _, fine₁₃, height, rfl⟩ := Checked.seq_eq_ok fine₁₂
    obtain ⟨_, _, fine₁₄, width, rfl⟩ := Checked.seq_eq_ok fine₁₃
    obtain ⟨_, _, fine₁₅, cssPath, rfl⟩ := Checked.seq_eq_ok fine₁₄
    obtain ⟨_, _, fine₁₆, css, rfl⟩ := Checked.seq_eq_ok fine₁₅
    obtain ⟨_, url, rfl⟩ := Checked.functorMap_eq_ok fine₁₆
    split at accepted
    · rename_i named
      cases accepted
      exact {
        url, css, cssPath, width, height, forceInclude := readIncluded, strict, timeout, settling
        loadLimit, blockScripts, headers, keepLarger, maxElements, unwanted := readRemoved
        payloadLimit, userAgent, sheet := named }
    · cases accepted

/-- Only an object is accepted. -/
theorem fields_of_readAny {config : Config} {json : Json} {request : Request}
    (accepted : readAny config json = .ok request)
    : Fields config json request := by
  unfold readAny at accepted
  split at accepted
  · exact fields_of_read accepted
  · cases accepted

/-- The field is there and can be read, or it is not and has its default. -/
theorem fieldOrRefusal_eq_ok {α : Type} {json : Json} {name : String} {default value : α}
    {readField : Json → Except Refusal (Checked α)}
    (fine : fieldOrRefusal json name default readField = .ok (.ok value))
    : (∃ member, json.get? name = some member ∧ readField member = .ok (.ok value))
      ∨ json.get? name = none ∧ value = default := by
  unfold fieldOrRefusal at fine
  split at fine
  · rename_i member found
    obtain ⟨checked, readMember, inField⟩ := exists_ok_of_bind fine
    have isValue := Checked.inside_eq_ok (Except.ok.inj inField)
    exact .inl ⟨member, found, isValue ▸ readMember⟩
  · rename_i absent
    cases fine
    exact .inr ⟨absent, rfl⟩

/-- The entries of an accepted request are ready. -/
theorem Fields.ready {config : Config} {json : Json} {request : Request}
    (fields : Fields config json request)
    : ∀ entry ∈ request.forceInclude, entry.Ready := by
  rcases fieldOrRefusal_eq_ok fields.forceInclude with ⟨member, _, read⟩ | ⟨_, none⟩
  · exact forall_of_readEntries (fun _ _ => ready_of_checkEntry) read
  · rw [none]
    simp

/-- The patterns that an accepted request names for unwanted properties compile. Those of the
configuration need not, as they are not looked at.
-/
theorem Fields.compile_iff {config : Config} {json : Json} {request : Request}
    (fields : Fields config json request)
    : (∀ source ∈ request.unwanted, Pattern.Compiles source)
      ↔ json.get? "properties_to_remove" = none
          → ∀ source ∈ config.unwanted, Pattern.Compiles source := by
  rcases fieldOrRefusal_eq_ok fields.unwanted with ⟨member, found, read⟩ | ⟨absent, same⟩
  · exact ⟨fun _ absent => (by rw [found] at absent; cases absent),
      fun _ => compiles_of_readUnwanted read⟩
  · rw [same]
    exact ⟨fun compile _ => compile, fun defaults => defaults absent⟩

end Request

end CriticalCss
