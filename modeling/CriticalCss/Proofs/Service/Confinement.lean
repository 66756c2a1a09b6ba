import CriticalCss.Proofs.Files.Place
import CriticalCss.Proofs.Request.RoundTrip
import CriticalCss.Service

/-! Style sheets are read below the root only. A path is accepted if it leads to a place below that
of the root, and what is passed on is the text of that place, which leads nowhere else. So what
stands outside the root makes no difference to what the service does, whatever it is asked, also
where a job reads its request once more.
-/

namespace CriticalCss

/-- The request with its style sheet at a place. -/
def Request.withSheetAt (request : Request) (place : List String) : Request :=
  { request with cssPath := some (Files.Path.placeText place) }

namespace Service

open Files

--------------------------------------------------------------------------------
-- Paths of requests
--------------------------------------------------------------------------------

/-- If the style sheet of the request is named by a path, that is the text of a place below the
root. -/
def Means.Confines (means : Means) (request : Request) : Prop :=
  ∀ name ∈ request.cssPath, name ≠ "" →
    ∃ root place,
      means.config.stylesheetRoot = some root
      ∧ root ≠ ""
      ∧ destination means.workingFolder root <+: place
      ∧ IsPlace place
      ∧ name = Path.placeText place

section Confining

variable {config : Config} {workingFolder : List String} {request confined : Request}
  {name root : String}

theorem resolveBelow_eq (home : IsPlace workingFolder) (filled : root ≠ "") (name : String)
    : resolveBelow workingFolder root name
      = if destination workingFolder root <+: destination workingFolder (below root name)
        then some ⟨1, destination workingFolder (below root name)⟩
        else none := by
  have inside (place : List String)
      : Path.isIn ⟨1, place⟩ ⟨1, destination workingFolder root⟩ = true
        ↔ destination workingFolder root <+: place := by
    simp [Path.isIn, List.isPrefixOf_iff_prefix]
  unfold resolveBelow
  simp only [Path.resolve_ofText, Path.resolve_within home filled, inside]

theorem confine_of_disabled (named : request.cssPath = some name) (filled : name ≠ "")
    (disabled : config.stylesheetRoot.filter (fun root => !root.isEmpty) = none)
    : confine config workingFolder request = .error .disabled := by
  unfold confine
  rw [named, Option.filter_some_pos (by simpa using filled), disabled]

theorem confine_of_root (home : IsPlace workingFolder) (named : request.cssPath = some name)
    (filled : name ≠ "") (rooted : config.stylesheetRoot = some root) (rootFilled : root ≠ "")
    : confine config workingFolder request
      = if '\x00' ∈ root.toList ∨ '\x00' ∈ name.toList then .error .unusable
        else if destination workingFolder root <+: destination workingFolder (below root name)
        then .ok (request.withSheetAt (destination workingFolder (below root name)))
        else .error .outside := by
  unfold confine
  rw [named, rooted, Option.filter_some_pos (by simpa using filled),
    Option.filter_some_pos (by simpa using rootFilled)]
  simp only [resolveBelow_eq home rootFilled, Bool.or_eq_true, List.contains_iff_mem]
  by_cases inside
    : destination workingFolder root <+: destination workingFolder (below root name)
  · rw [if_pos inside, if_pos inside]
    rfl
  · rw [if_neg inside, if_neg inside]

/-- A request that is let pass keeps all but its path, and with a path it is rooted. -/
theorem confine_cases (home : IsPlace workingFolder)
    (passes : confine config workingFolder request = .ok confined)
    : confined = request ∧ (∀ name ∈ request.cssPath, name = "")
      ∨ ∃ root place,
          config.stylesheetRoot = some root
          ∧ root ≠ ""
          ∧ destination workingFolder root <+: place
          ∧ IsPlace place
          ∧ confined = request.withSheetAt place := by
  cases named : request.cssPath with
  | none =>
    unfold confine at passes
    rw [named] at passes
    cases passes
    exact .inl ⟨rfl, by simp⟩
  | some name =>
    by_cases filled : name = ""
    · subst filled
      unfold confine at passes
      rw [named] at passes
      cases passes
      exact .inl ⟨rfl, by simp⟩
    · cases rooted : config.stylesheetRoot.filter (fun root => !root.isEmpty) with
      | none =>
        rw [confine_of_disabled named filled rooted] at passes
        cases passes
      | some root =>
        obtain ⟨found, own⟩ := Option.filter_eq_some_iff.mp rooted
        have rootFilled : root ≠ "" := by simpa using own
        rw [confine_of_root home named filled found rootFilled] at passes
        split at passes
        · cases passes
        · split at passes
          · rename_i inside
            cases passes
            exact .inr ⟨root, _, found, rootFilled, inside, isPlace_destination home _, rfl⟩
          · cases passes

theorem Means.confines_of_confine {means : Means} (home : IsPlace means.workingFolder)
    (passes : confine means.config means.workingFolder request = .ok confined)
    : means.Confines confined := by
  intro name named filled
  rcases confine_cases home passes with ⟨rfl, empty⟩ | ⟨root, place, rooted, own, inside, is, rfl⟩
  · exact absurd (empty name named) filled
  · cases named
    exact ⟨root, place, rooted, own, inside, is, rfl⟩

theorem readRequest_of_read {members : List (String × Json)}
    (read : Request.read config (.obj members) = .ok request)
    : readRequest config workingFolder (.json (.obj members))
      = (confine config workingFolder request).mapError denialReply := by
  unfold readRequest
  simp only [read]

/-- A request that a route takes has been read from a body, and its path has been let pass. -/
theorem exists_read_of_readRequest {body : Body}
    (taken : readRequest config workingFolder body = .ok confined)
    : ∃ json request,
        Request.read config json = .ok request
        ∧ confine config workingFolder request = .ok confined := by
  unfold readRequest at taken
  split at taken
  · cases taken
  · cases taken
  · rename_i members
    split at taken
    · rename_i request read
      cases passes : confine config workingFolder request with
      | error denial =>
        rw [passes] at taken
        cases taken
      | ok own =>
        rw [passes] at taken
        cases taken
        exact ⟨_, request, read, passes⟩
    · cases taken
  · cases taken
  · cases taken

end Confining

--------------------------------------------------------------------------------
-- Routes
--------------------------------------------------------------------------------

/-- What the two routes that take requests make of one whose style sheet is named by a path. -/
structure Means.Gates (means : Means) (body : Body) (request : Request) (name : String)
    (service : Service)
    : Prop where
  /-- Without a root no path is accepted. -/
  disabled :
    (∀ root ∈ means.config.stylesheetRoot, root = "") →
      ∀ route ∈ [Route.extract, .generate],
        followOpen means route body service
          = (service, .detail 400 "css_file_path is not accepted; send css_string instead")
  /-- A root that is no path at all is good for nothing. -/
  unusable :
    ∀ root, means.config.stylesheetRoot = some root → root ≠ "" → '\x00' ∈ root.toList →
      ∀ route ∈ [Route.extract, .generate],
        followOpen means route body service = (service, .internalError)
  outside :
    ∀ root, means.config.stylesheetRoot = some root → root ≠ "" → '\x00' ∉ root.toList →
      ¬ destination means.workingFolder root
          <+: destination means.workingFolder (below root name) →
        ∀ route ∈ [Route.extract, .generate],
          followOpen means route body service
            = (service, .detail 400 "css_file_path must stay inside the stylesheet root")
  /-- What is passed on is the text of the place, whose only steps are names. -/
  inside :
    ∀ root, means.config.stylesheetRoot = some root → root ≠ "" → '\x00' ∉ root.toList →
      destination means.workingFolder root
          <+: destination means.workingFolder (below root name) →
        let place := destination means.workingFolder (below root name)
        IsPlace place
        ∧ Path.ofText (Path.placeText place) = ⟨1, place⟩
        ∧ followOpen means .extract body service
          = extract means (request.withSheetAt place) service
        ∧ followOpen means .generate body service
          = generate means (request.withSheetAt place) service

section Routing

variable {means : Means} {body : Body} {request : Request} {name : String} {service : Service}

/-- A body that is not taken is answered at once, and nothing else is done. -/
theorem followOpen_of_error {reply : Reply}
    (refused : readRequest means.config means.workingFolder body = .error reply)
    : ∀ route ∈ [Route.extract, .generate],
        followOpen means route body service = (service, reply) := by
  intro route member
  simp only [List.mem_cons, List.not_mem_nil, or_false] at member
  rcases member with rfl | rfl <;> simp only [followOpen, refused]

theorem gates_of_read {members : List (String × Json)} (home : IsPlace means.workingFolder)
    (read : Request.read means.config (.obj members) = .ok request)
    (named : request.cssPath = some name) (filled : name ≠ "") (usable : '\x00' ∉ name.toList)
    : means.Gates (.json (.obj members)) request name service := by
  have taken
      : readRequest means.config means.workingFolder (.json (.obj members))
        = (confine means.config means.workingFolder request).mapError denialReply :=
    readRequest_of_read read
  refine ⟨fun none => ?_, fun root rooted own null => ?_, fun root rooted own whole out => ?_,
    fun root rooted own whole within => ?_⟩
  · have disabled : means.config.stylesheetRoot.filter (fun root => !root.isEmpty) = .none := by
      refine Option.filter_eq_none_iff.mpr fun root member => ?_
      simp [none root member]
    rw [confine_of_disabled named filled disabled] at taken
    exact followOpen_of_error taken
  · rw [confine_of_root home named filled rooted own, if_pos (.inl null)] at taken
    exact followOpen_of_error taken
  · rw [confine_of_root home named filled rooted own, if_neg (by simp [whole, usable]), if_neg out]
      at taken
    exact followOpen_of_error taken
  · rw [confine_of_root home named filled rooted own, if_neg (by simp [whole, usable]),
      if_pos within] at taken
    replace taken
        : readRequest means.config means.workingFolder (.json (.obj members)) = .ok _ :=
      taken
    have isPlace := isPlace_destination home (below root name)
    refine ⟨isPlace, Path.ofText_placeText isPlace, ?_, ?_⟩ <;> simp only [followOpen, taken]

end Routing

--------------------------------------------------------------------------------
-- What stands outside the root
--------------------------------------------------------------------------------

/-- The means differ at most in what they make of requests for style sheets outside the root. -/
structure Means.AlikeBelowRoot (means other : Means) : Prop where
  config : other.config = means.config
  workingFolder : other.workingFolder = means.workingFolder
  run : ∀ request, means.Confines request → other.run request = means.run request

/-- Answers calls one after the other. -/
def answerAll (means : Means) : List Call → Service → Service × List Reply
  | [], service => (service, [])
  | call :: rest, service =>
    let (service, reply) := answer means call service
    let (service, replies) := answerAll means rest service
    (service, reply :: replies)

section Outside

variable {means other : Means} {request : Request}

theorem runRequest_of_alike (alike : means.AlikeBelowRoot other) (confined : means.Confines request)
    (service : Service)
    : runRequest other request service = runRequest means request service := by
  rw [runRequest, runRequest, alike.run request confined]

theorem extract_of_alike (alike : means.AlikeBelowRoot other) (confined : means.Confines request)
    (service : Service)
    : extract other request service = extract means request service := by
  rw [extract, extract, runRequest_of_alike alike confined]

/-- A job that reads its request again finds the same, if it finds one at all. -/
theorem work_of_alike (alike : means.AlikeBelowRoot other) (confined : means.Confines request)
    (id : String) (service : Service)
    : work other id request.toJson service = work means id request.toJson service := by
  unfold work
  rw [alike.config]
  dsimp only
  split
  · rfl
  · rename_i again read
    obtain ⟨rfl, -⟩ := Request.read_toJson_iff.mp read
    rw [runRequest_of_alike alike confined]

theorem generate_of_alike (alike : means.AlikeBelowRoot other) (confined : means.Confines request)
    (service : Service)
    : generate other request service = generate means request service := by
  simp only [generate, work_of_alike alike confined]

theorem followOpen_of_alike (home : IsPlace means.workingFolder)
    (alike : means.AlikeBelowRoot other) (route : Route) (body : Body) (service : Service)
    : followOpen other route body service = followOpen means route body service := by
  have confined {request : Request}
      (taken : readRequest means.config means.workingFolder body = .ok request)
      : means.Confines request := by
    obtain ⟨json, original, -, passes⟩ := exists_read_of_readRequest taken
    exact Means.confines_of_confine home passes
  unfold followOpen
  rw [alike.config, alike.workingFolder]
  cases route with
  | health | authCheck | job id => rfl
  | extract =>
    dsimp only
    split
    · rename_i request taken
      exact extract_of_alike alike (confined taken) service
    · rfl
  | generate =>
    dsimp only
    split
    · rename_i request taken
      exact generate_of_alike alike (confined taken) service
    · rfl

theorem answer_of_alike (home : IsPlace means.workingFolder) (alike : means.AlikeBelowRoot other)
    (call : Call) (service : Service)
    : answer other call service = answer means call service := by
  unfold answer follow
  rw [alike.config]
  simp only [followOpen_of_alike home alike]

theorem answerAll_of_alike (home : IsPlace means.workingFolder)
    (alike : means.AlikeBelowRoot other) (calls : List Call) (service : Service)
    : answerAll other calls service = answerAll means calls service := by
  induction calls generalizing service with
  | nil => rfl
  | cons call rest ih => simp only [answerAll, answer_of_alike home alike, ih]

end Outside

/-- **Style sheets are read below the root only.** Both routes accept the path of a style sheet just
if it leads to a place below that of the root, and pass on the text of that place; any other path is
refused before anything is done. Whatever calls come, the service does the same if requests for
style sheets outside the root would be run in another way, and to open the path of any other request
is to open a file below the root.
-/
theorem confined_answers {means : Means} (home : IsPlace means.workingFolder)
    : (∀ members request name,
        Request.read means.config (.obj members) = .ok request →
          request.cssPath = some name →
            name ≠ "" →
              '\x00' ∉ name.toList →
                ∀ service, means.Gates (.json (.obj members)) request name service)
      ∧ (∀ other, means.AlikeBelowRoot other →
          ∀ calls service, answerAll other calls service = answerAll means calls service)
      ∧ ∀ request, means.Confines request →
          ∀ name ∈ request.cssPath, name ≠ "" →
            ∀ (tree : Tree) found, tree.bytes (.ofText name) = .ok found →
              ∃ root place,
                means.config.stylesheetRoot = some root
                ∧ destination means.workingFolder root <+: place
                ∧ tree.file? place = some found := by
  refine ⟨fun members request name read named filled usable service =>
      gates_of_read home read named filled usable,
    fun other alike calls service => answerAll_of_alike home alike calls service,
    fun request confined name named filled tree found opened => ?_⟩
  obtain ⟨root, place, rooted, -, inside, isPlace, rfl⟩ := confined name named filled
  exact ⟨root, place, rooted, inside, Tree.file?_of_bytes isPlace opened⟩

/-- A service that was started in a folder, with a root below it. -/
def rootedMeans : Means where
  config := { stylesheetRoot := some "styles" }
  workingFolder := ["srv"]
  run _ progress := (progress, .error .emptySheet)

/-- The members of a request for a style sheet at a path, and what is read from them. -/
def pathMembers (name : String) : List (String × Json) :=
  [("url", .str "https://example.org"), ("css_file_path", .str name)]

def pathRequest (name : String) : Request where
  url := "https://example.org"
  css := none
  cssPath := some name
  viewport := rootedMeans.config.viewport
  forceInclude := []
  strict := false
  timeout := rootedMeans.config.timeout
  settling := rootedMeans.config.settling
  loadLimit := none
  blockScripts := rootedMeans.config.blockScripts
  headers := []
  keepLarger := false
  maxElements := none
  unwanted := rootedMeans.config.unwanted
  payloadLimit := rootedMeans.config.payloadLimit
  userAgent := rootedMeans.config.userAgent

/-- One path goes down and up again in the root, the other leads to its neighbour. -/
theorem confined_answers_rootedMeans
    : let service : Service := { progress := { pool := .fresh rootedMeans.config {} [] } }
      IsPlace rootedMeans.workingFolder
      ∧ followOpen rootedMeans .generate (.json (.obj (pathMembers "x//../a.css"))) service
        = generate rootedMeans ((pathRequest "x//../a.css").withSheetAt ["srv", "styles", "a.css"])
            service
      ∧ followOpen rootedMeans .extract (.json (.obj (pathMembers "../styles-old/a.css"))) service
        = (service, .detail 400 "css_file_path must stay inside the stylesheet root") := by
  intro service
  have home : IsPlace rootedMeans.workingFolder := by
    intro name member
    obtain rfl : name = "srv" := List.mem_singleton.mp member
    exact ⟨by decide, by decide, by decide⟩
  obtain ⟨gates, -⟩ := confined_answers home
  have within := (gates (pathMembers "x//../a.css") (pathRequest "x//../a.css") _ rfl rfl
    (by decide) (by decide) service).inside "styles" rfl (by decide) (by decide) (by decide)
  have out := (gates (pathMembers "../styles-old/a.css") (pathRequest "../styles-old/a.css") _ rfl
    rfl (by decide) (by decide) service).outside "styles" rfl (by decide) (by decide) (by decide)
  exact ⟨home, within.2.2.2, out .extract List.mem_cons_self⟩

end Service

end CriticalCss
