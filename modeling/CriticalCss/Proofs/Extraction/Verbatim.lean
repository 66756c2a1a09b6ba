import CriticalCss.Proofs.Extraction.Unfailing
import CriticalCss.Proofs.Selection.Interruption

/-! Verbatim at-rules on their way through a reduction. Imports, statements and rules of unknown
kinds are not looked into, so all of them stay, in order and with the blocks around them, but for
those about pages of paper and those in media blocks that cannot match. Each pass is followed by
the outline of the tree: what stands in it outside keyframes is verbatim at-rules and the blocks
that hold some.
-/

namespace CriticalCss

open Selection (Scope withoutDropped withoutDroppedOf pruneNodes pruneNode collectNodes)

--------------------------------------------------------------------------------
-- Verbatim at-rules and the blocks around them
--------------------------------------------------------------------------------

/-- A verbatim at-rule in a sheet, and name and prelude of each block around it from the outermost
one on. -/
structure Verbatim where
  around : List (String × String)
  name : String
  prelude : String
  text : String
  deriving DecidableEq, Repr

mutual
/-- The verbatim at-rules in a rule that stands inside of blocks. The content of keyframes does not
count. -/
def Node.verbatims (around : List (String × String)) : Node → List Verbatim
  | .verbatim name prelude text _ _ => [⟨around, name, prelude, text⟩]
  | .ruleBlock name prelude body =>
    if isKeyframes name then [] else Stylesheet.verbatims (around ++ [(name, prelude)]) body
  | _ => []

/-- The verbatim at-rules in rules that stand inside of blocks, in order. -/
def Stylesheet.verbatims (around : List (String × String)) : List Node → List Verbatim
  | [] => []
  | node :: rest => node.verbatims around ++ Stylesheet.verbatims around rest
end

mutual
/-- The rule with nothing but verbatim at-rules and the blocks that hold some; nothing if there are
none in it. The content of keyframes does not count. -/
def Node.outline : Node → Option Node
  | .verbatim name prelude text kind unread => some (.verbatim name prelude text kind unread)
  | .ruleBlock name prelude body =>
    if isKeyframes name = true ∨ Stylesheet.outline body = [] then none
    else some (.ruleBlock name prelude (Stylesheet.outline body))
  | _ => none

/-- The rules with nothing but verbatim at-rules and the blocks that hold some. -/
def Stylesheet.outline : List Node → List Node
  | [] => []
  | node :: rest => node.outline.toList ++ Stylesheet.outline rest
end

theorem Stylesheet.outline_append (left right : List Node)
    : Stylesheet.outline (left ++ right)
      = Stylesheet.outline left ++ Stylesheet.outline right := by
  induction left with
  | nil => rfl
  | cons node rest ih => simp [Stylesheet.outline, ih]

theorem Stylesheet.verbatims_append (around : List (String × String)) (left right : List Node)
    : Stylesheet.verbatims around (left ++ right)
      = Stylesheet.verbatims around left ++ Stylesheet.verbatims around right := by
  induction left with
  | nil => rfl
  | cons node rest ih => simp [Stylesheet.verbatims, ih]

/-- The verbatim at-rules of a sheet can be told by its outline. -/
theorem Stylesheet.verbatims_outline (around : List (String × String)) (sheet : List Node)
    : Stylesheet.verbatims around (Stylesheet.outline sheet)
      = Stylesheet.verbatims around sheet := by
  induction sheet using Stylesheet.induction generalizing around with
  | nil => rfl
  | block name prelude body rest inner later =>
    rw [Stylesheet.outline, Stylesheet.verbatims_append, later, Stylesheet.verbatims,
      List.append_left_inj]
    cases closed : isKeyframes name with
    | true => simp [Node.outline, Node.verbatims, Stylesheet.verbatims, closed]
    | false =>
      by_cases bare : Stylesheet.outline body = []
      · have none := inner (around ++ [(name, prelude)])
        rw [bare] at none
        simp [Node.outline, Node.verbatims, Stylesheet.verbatims, closed, bare, ← none]
      · simp [Node.outline, Node.verbatims, Stylesheet.verbatims, closed, bare, inner]
  | leaf node rest leaf later =>
    rw [Stylesheet.outline, Stylesheet.verbatims_append, later, Stylesheet.verbatims,
      List.append_left_inj]
    cases node with
    | ruleBlock => simp [Node.holdsRules] at leaf
    | _ => simp [Node.outline, Node.verbatims, Stylesheet.verbatims]

/-- The blocks around a verbatim at-rule begin with those around the sheet that holds it. -/
theorem Stylesheet.around_of_mem_verbatims {around : List (String × String)} {sheet : List Node}
    {item : Verbatim} (member : item ∈ Stylesheet.verbatims around sheet)
    : around.Subset item.around := by
  induction sheet using Stylesheet.induction generalizing around with
  | nil => cases member
  | block name prelude body rest inner later =>
    rcases List.mem_append.mp member with within | behind
    · unfold Node.verbatims at within
      split at within
      · cases within
      · exact List.Subset.trans (List.subset_append_left _ _) (inner within)
    · exact later behind
  | leaf node rest leaf later =>
    rcases List.mem_append.mp member with own | behind
    · cases node with
      | verbatim =>
        obtain rfl := List.mem_singleton.mp own
        exact List.Subset.refl _
      | ruleBlock => simp [Node.holdsRules] at leaf
      | _ => cases own
    · exact later behind

--------------------------------------------------------------------------------
-- Tidying
--------------------------------------------------------------------------------

/-- Cleaning keeps the outline: a block that is cleaned away holds nothing verbatim. -/
theorem Stylesheet.outline_withoutEmpty (sheet : List Node)
    : Stylesheet.outline (Stylesheet.withoutEmpty sheet) = Stylesheet.outline sheet := by
  induction sheet using Stylesheet.induction with
  | nil => rfl
  | block name prelude body rest inner later =>
    rw [Stylesheet.withoutEmpty_cons, Stylesheet.outline_append, later, Stylesheet.outline,
      Node.withoutEmpty_ruleBlock, List.append_left_inj]
    by_cases empty : Stylesheet.withoutEmpty body = []
    · rw [empty] at inner
      simp [empty, Stylesheet.outline, Node.outline, ← inner]
    · simp [empty, Stylesheet.outline, Node.outline, inner]
  | leaf node rest leaf later =>
    rw [Stylesheet.withoutEmpty_cons, Stylesheet.outline_append, later, Stylesheet.outline,
      List.append_left_inj]
    rcases Node.withoutEmpty_leaf leaf with gone | kept
    · cases node with
      | verbatim => cases gone
      | ruleBlock => simp [Node.holdsRules] at leaf
      | _ => simp [gone, Stylesheet.outline, Node.outline]
    · simp [kept, Stylesheet.outline]

/-- Dropping declarations keeps the outline. -/
theorem Stylesheet.outline_dropDeclarations (test : Declaration → Bool) (sheet : List Node)
    : Stylesheet.outline (Stylesheet.dropDeclarations test sheet) = Stylesheet.outline sheet := by
  induction sheet using Stylesheet.induction with
  | nil => rfl
  | block name prelude body rest inner later =>
    simp [Stylesheet.dropDeclarations, Node.dropDeclarations, Stylesheet.outline, Node.outline,
      inner, later]
  | leaf node rest leaf later =>
    rw [Stylesheet.dropDeclarations, Stylesheet.outline, Stylesheet.outline, later,
      List.append_left_inj]
    cases node with
    | ruleBlock => simp [Node.holdsRules] at leaf
    | _ => rfl

/-- A test on at-rules that is about keyframes and blocks of declarations only. -/
structure SparesVerbatim (test : Node → Bool) : Prop where
  verbatim
    : ∀ name prelude text kind unread, test (.verbatim name prelude text kind unread) = false
  ruleBlock
    : ∀ name prelude body,
        isKeyframes name = false → test (.ruleBlock name prelude body) = false

/-- Dropping at-rules keeps the outline if verbatim ones, and blocks that may hold them, fail the
test. -/
theorem Stylesheet.outline_dropAtRules {test : Node → Bool} (spares : SparesVerbatim test)
    (sheet : List Node)
    : Stylesheet.outline (Stylesheet.dropAtRules test sheet) = Stylesheet.outline sheet := by
  induction sheet using Stylesheet.induction with
  | nil => rfl
  | block name prelude body rest inner later =>
    rw [Stylesheet.dropAtRules_cons, Stylesheet.outline_append, later, Stylesheet.outline,
      Node.dropAtRules, List.append_left_inj]
    cases closed : isKeyframes name with
    | true => split <;> simp [Stylesheet.outline, Node.outline, closed]
    | false =>
      simp [spares.ruleBlock name prelude body closed, Stylesheet.outline, Node.outline, closed,
        inner]
  | leaf node rest leaf later =>
    rw [Stylesheet.dropAtRules_cons, Stylesheet.outline_append, later, Stylesheet.outline,
      Node.dropAtRules_leaf test leaf, List.append_left_inj]
    cases node with
    | verbatim name prelude text kind unread =>
      simp [spares.verbatim, Stylesheet.outline]
    | ruleBlock => simp [Node.holdsRules] at leaf
    | _ => split <;> simp [Stylesheet.outline, Node.outline]

namespace Tidy

/-- The passes of tidying, in order. -/
def passes (patterns : List Pattern) (limit : Int) : List (Stylesheet → Outcome) :=
  [removeUnwanted patterns, removeOversized limit, removeUnusedFontFaces, removeUnusedKeyframes]

theorem sparesVerbatim_isUnusedFontFace (families : List (List Char))
    : SparesVerbatim (isUnusedFontFace families) :=
  ⟨fun _ _ _ _ _ => rfl, fun _ _ _ _ => rfl⟩

theorem sparesVerbatim_isUnusedKeyframes (names : List (List Char))
    : SparesVerbatim (isUnusedKeyframes names) := by
  refine ⟨fun _ _ _ _ _ => rfl, fun name prelude body opened => ?_⟩
  simp [isUnusedKeyframes, Node.atRule?, opened]

/-- Every pass keeps the outline of every sheet. -/
theorem outline_of_mem_passes {patterns : List Pattern} {limit : Int}
    {pass : Stylesheet → Outcome} (member : pass ∈ passes patterns limit) (sheet : Stylesheet)
    : Stylesheet.outline (pass sheet).sheet = Stylesheet.outline sheet := by
  simp only [passes, List.mem_cons, List.not_mem_nil, or_false] at member
  rcases member with rfl | rfl | rfl | rfl
  · unfold removeUnwanted
    split
    · rfl
    · exact (Stylesheet.outline_withoutEmpty _).trans (Stylesheet.outline_dropDeclarations _ _)
  · exact (Stylesheet.outline_withoutEmpty _).trans (Stylesheet.outline_dropDeclarations _ _)
  · exact (Stylesheet.outline_withoutEmpty _).trans
      (Stylesheet.outline_dropAtRules (sparesVerbatim_isUnusedFontFace _) _)
  · exact (Stylesheet.outline_withoutEmpty _).trans
      (Stylesheet.outline_dropAtRules (sparesVerbatim_isUnusedKeyframes _) _)

/-- Tidying keeps the outline of every sheet. -/
theorem outline_run (patterns : List Pattern) (limit : Int) (sheet : Stylesheet)
    : Stylesheet.outline (run patterns limit sheet).sheet = Stylesheet.outline sheet := by
  have inTurn (passes : List (Stylesheet → Outcome))
      (keep : ∀ pass ∈ passes, ∀ sheet,
        Stylesheet.outline (pass sheet).sheet = Stylesheet.outline sheet)
      (sheet : Stylesheet)
      : Stylesheet.outline (passes.foldl (fun sheet pass => (pass sheet).sheet) sheet)
        = Stylesheet.outline sheet := by
    induction passes generalizing sheet with
    | nil => rfl
    | cons pass rest ih =>
      obtain ⟨first, others⟩ := List.forall_mem_cons.mp keep
      exact (ih others _).trans (first sheet)
  exact inTurn (passes patterns limit) (fun pass => outline_of_mem_passes) sheet

end Tidy

namespace Selection

--------------------------------------------------------------------------------
-- Selecting
--------------------------------------------------------------------------------

variable {scope : Scope} {sheet : Stylesheet}

/-- Can the block of rules match the viewport? Only media blocks may fail to. -/
def Scope.admits (scope : Scope) (head : String × String) : Bool :=
  head.1 != "media" || Media.mayMatch head.2 scope.viewport scope.keepLarger

/-- Is the verbatim at-rule not about pages of paper, and can all blocks around it match? -/
def Scope.suits (scope : Scope) (item : Verbatim) : Bool :=
  Text.lowerString item.name != "page" && item.around.all scope.admits

/-- Verbatim at-rules are dropped by their name. -/
theorem drops_verbatim (scope : Scope) (name prelude text : String) (kind : BlockKind)
    (unread : Json)
    : scope.drops (.verbatim name prelude text kind unread)
      = (Text.lowerString name == "page") := by
  unfold Scope.drops Scope.retention Retention.of Retention.ofAtRule
  dsimp only
  generalize Text.lowerString name = lower
  by_cases paper : lower = "page"
  · have other : isKeyframes "page" = false := by decide +kernel
    simp [paper, other, untouchedNames, nonCriticalNames]
  · have other : nonCriticalNames.contains lower = false := by simp [nonCriticalNames, paper]
    simp only [other, beq_false_of_ne paper, Bool.and_false, Bool.false_eq_true, if_false]
    split
    · rfl
    · split
      · rfl
      · rfl

/-- A block of rules of a known name is a container, or a media block that cannot match. -/
theorem retention_of_mem_ruleBlockNames {name : String} (known : name ∈ ruleBlockNames)
    (scope : Scope) (prelude : String) (body : List Node)
    : scope.retention (.ruleBlock name prelude body)
      = if scope.admits (name, prelude) then .container else .unmatchedMedia := by
  have lower : ∀ name ∈ ruleBlockNames, Text.lowerString name = name := by decide +kernel
  have special
      : ∀ name ∈ ruleBlockNames,
          untouchedNames.contains name = false ∧ name ≠ "font-face" ∧ isKeyframes name = false
          ∧ nonCriticalNames.contains name = false ∧ ruleBlockNames.contains name = true := by
    decide +kernel
  obtain ⟨looked, notFace, notFrames, onScreen, holds⟩ := special name known
  unfold Scope.retention Retention.of Retention.ofAtRule Scope.admits
  simp only [lower name known, looked, notFace, notFrames, onScreen, holds, Bool.false_eq_true,
    if_false, Bool.and_true, if_true]
  by_cases media : name = "media"
  · cases Media.mayMatch prelude scope.viewport scope.keepLarger <;> simp [media]
  · simp [media]

/-- Pruning keeps the outline of what is not dropped: a container that goes holds nothing
verbatim. -/
theorem outline_pruneNodes (scope : Scope) (test : List Declaration → String → Bool)
    (textual : Stylesheet.Textual sheet)
    : Stylesheet.outline (pruneNodes scope test sheet)
      = Stylesheet.outline (withoutDropped scope sheet) := by
  induction sheet using Stylesheet.induction with
  | nil => rfl
  | block name prelude body rest inner later =>
    rw [pruneNodes, withoutDropped, Stylesheet.outline_append, Stylesheet.outline_append,
      later textual.2, List.append_left_inj]
    unfold pruneNode withoutDroppedOf
    split
    · rfl
    · rename_i kept
      have kept := Bool.eq_false_iff.mpr kept
      by_cases container : scope.retention (.ruleBlock name prelude body) = .container
      · simp only [container, if_true]
        by_cases bare : pruneNodes scope test body = []
        · have none := inner textual.1.2
          rw [bare] at none
          simp [bare, Stylesheet.outline, Node.outline, ← none]
        · simp [bare, Stylesheet.outline, Node.outline, inner textual.1.2]
      · -- A block that is kept without being a container is one of keyframes.
        have closed : isKeyframes name = true := by
          refine textual.1.1.resolve_left fun known => ?_
          rw [retention_of_mem_ruleBlockNames known] at container
          rw [Scope.drops, retention_of_mem_ruleBlockNames known] at kept
          cases admitted : scope.admits (name, prelude) with
          | true => simp [admitted] at container
          | false => simp [admitted] at kept
        simp only [container, if_false, Node.withoutBareBlocks]
        split <;> simp [Stylesheet.outline, Node.outline, closed]
  | leaf node rest leaf later =>
    rw [pruneNodes, withoutDropped, Stylesheet.outline_append, Stylesheet.outline_append,
      later textual.2, List.append_left_inj]
    unfold pruneNode withoutDroppedOf
    split
    · rfl
    · cases node with
      | ruleBlock => simp [Node.holdsRules] at leaf
      | style selectors declarations =>
        dsimp only
        split <;> simp [Stylesheet.outline, Node.outline]
      | _ => rfl

/-- Dropping keeps just the suitable verbatim at-rules of a tree that comes from a text.
Witness: induction on the tree; in a block that is dropped none is suitable.
-/
theorem verbatims_withoutDropped {around : List (String × String)}
    (textual : Stylesheet.Textual sheet) (admitted : around.all scope.admits = true)
    : Stylesheet.verbatims around (withoutDropped scope sheet)
      = (Stylesheet.verbatims around sheet).filter scope.suits := by
  induction sheet using Stylesheet.induction generalizing around with
  | nil => rfl
  | block name prelude body rest inner later =>
    rw [withoutDropped, Stylesheet.verbatims_append, Stylesheet.verbatims, List.filter_append,
      later textual.2 admitted, List.append_left_inj]
    rw [Node.verbatims]
    cases closed : isKeyframes name with
    | true =>
      by_cases container : scope.retention (.ruleBlock name prelude body) = .container
      · simp [withoutDroppedOf, drops_of_container container, container, Stylesheet.verbatims,
          Node.verbatims, closed]
      · cases dropped : scope.drops (.ruleBlock name prelude body) <;>
          simp [withoutDroppedOf, dropped, container, Stylesheet.verbatims, Node.verbatims, closed]
    | false =>
      have known : name ∈ ruleBlockNames :=
        textual.1.1.resolve_right fun frames => Bool.noConfusion (closed.symm.trans frames)
      have treated := retention_of_mem_ruleBlockNames known scope prelude body
      cases fits : scope.admits (name, prelude) with
      | true =>
        have container : scope.retention (.ruleBlock name prelude body) = .container := by
          rw [treated, fits, if_pos rfl]
        have admitted : (around ++ [(name, prelude)]).all scope.admits = true := by
          simp [admitted, fits]
        have within := inner textual.1.2 admitted
        simp [withoutDroppedOf, drops_of_container container, container, Stylesheet.verbatims,
          Node.verbatims, closed, within]
      | false =>
        have dropped : scope.drops (.ruleBlock name prelude body) = true := by
          rw [Scope.drops, treated, fits]
          rfl
        have none : withoutDroppedOf scope (.ruleBlock name prelude body) = none := by
          simp [withoutDroppedOf, dropped]
        rw [none, eq_comm]
        apply List.filter_eq_nil_iff.mpr
        intro item member suits
        have inside : (name, prelude) ∈ item.around :=
          Stylesheet.around_of_mem_verbatims member (by simp)
        have all := (Bool.and_eq_true_iff.mp suits).2
        rw [List.all_eq_true] at all
        exact Bool.noConfusion (fits.symm.trans (all _ inside))
  | leaf node rest leaf later =>
    rw [withoutDropped, Stylesheet.verbatims_append, Stylesheet.verbatims, List.filter_append,
      later textual.2 admitted, withoutDroppedOf_leaf leaf, List.append_left_inj]
    cases node with
    | verbatim name prelude text kind unread =>
      rw [drops_verbatim]
      cases paper : Text.lowerString name == "page" <;>
        simp [Stylesheet.verbatims, Node.verbatims, Scope.suits, bne, paper, admitted]
    | ruleBlock => simp [Node.holdsRules] at leaf
    | _ => split <;> simp [Stylesheet.verbatims, Node.verbatims]

end Selection

namespace Extraction

--------------------------------------------------------------------------------
-- Reducing
--------------------------------------------------------------------------------

/-- What becomes of the verbatim at-rules of a sheet whose critical part is chosen for a scope and
then tidied. -/
structure KeepsVerbatim (scope : Scope) (patterns : List Pattern) (limit : Int)
    (sheet chosen tidied : Stylesheet)
    : Prop where
  /-- The suitable ones are chosen, in order, with their texts and with the blocks around them. -/
  suitable : Stylesheet.verbatims [] chosen = (Stylesheet.verbatims [] sheet).filter scope.suits
  /-- Tidying keeps all of those. -/
  complete : Stylesheet.verbatims [] tidied = Stylesheet.verbatims [] chosen
  /-- Choosing drops no block that holds one, but for what is dropped whatever the page shows. -/
  choosing : Stylesheet.outline chosen = Stylesheet.outline (collectNodes scope sheet).kept
  /-- No pass of tidying drops a block that holds one, whatever sheet it is given. -/
  passing
    : ∀ pass ∈ Tidy.passes patterns limit,
        ∀ given, Stylesheet.outline (pass given).sheet = Stylesheet.outline given

/-- Pruning and tidying keep the suitable verbatim at-rules of a tree that comes from a text. -/
theorem keepsVerbatim_pruneNodes {sheet : Stylesheet} (textual : Stylesheet.Textual sheet)
    (scope : Scope) (test : List Declaration → String → Bool) (patterns : List Pattern)
    (limit : Int)
    : KeepsVerbatim scope patterns limit sheet (pruneNodes scope test sheet)
        (Tidy.run patterns limit (pruneNodes scope test sheet)).sheet := by
  have unstopped : (collectNodes scope sheet).stopped = false :=
    Selection.collectNodes_stopped textual
  have pruned := Selection.outline_pruneNodes scope test textual
  refine ⟨?_, ?_, ?_, fun pass => Tidy.outline_of_mem_passes⟩
  · rw [← Stylesheet.verbatims_outline, pruned, Stylesheet.verbatims_outline]
    exact Selection.verbatims_withoutDropped textual rfl
  · rw [← Stylesheet.verbatims_outline, Tidy.outline_run, Stylesheet.verbatims_outline]
  · rw [pruned, Selection.collectNodes_kept unstopped]

theorem scope_of_selectionSettings {config : Config} {request : Request}
    {settings : Selection.Settings} (found : selectionSettings config request = .ok settings)
    : settings.scope = ⟨request.viewport, request.keepLarger⟩ := by
  unfold selectionSettings at found
  split at found
  · cases found
  · cases found
    rfl

/-- What is finished with a text is the print of the tidied sheet. -/
theorem print_of_finish {request : Request} {sheet : Stylesheet} {progress : Progress}
    {text : String} (finished : (finish request sheet progress).2 = .css text)
    : ∃ patterns,
        Tidy.compilePatterns request.unwanted = .ok patterns
        ∧ Stylesheet.print (Tidy.run patterns request.payloadLimit sheet).sheet = .ok text := by
  unfold finish at finished
  split at finished
  · cases finished
  · rename_i patterns compiled
    refine ⟨patterns, compiled, ?_⟩
    dsimp only at finished
    split at finished
    · rename_i printed same
      cases finished
      exact same
    · cases finished

/-- A reduction that ends with a text has gone through its selection and been finished. -/
theorem finish_of_reduce {conditions : Conditions} {request : Request} {reading : Reading}
    {deadline : Nat} {page : Browser.Page} {progress : Progress} {text : String}
    (reduced : (reduce conditions request reading deadline page progress).2 = .css text)
    : ∃ settings after,
        selectionSettings conditions.setup.config request = .ok settings
        ∧ (Selection.run settings conditions.probe progress.clock (some deadline)
            reading.sheet).ending = .done
        ∧ (finish request
            (Selection.run settings conditions.probe progress.clock (some deadline)
              reading.sheet).sheet
            after).2 = .css text := by
  have clock : (progress.noteAll reading.events).clock = progress.clock := rfl
  unfold reduce at reduced
  cases found : selectionSettings conditions.setup.config request with
  | error failure =>
    simp only [found] at reduced
    cases reduced
  | ok settings =>
    simp only [found, clock] at reduced
    cases ended : (Selection.run settings conditions.probe progress.clock (some deadline)
        reading.sheet).ending with
    | done =>
      simp only [ended] at reduced
      exact ⟨settings, _, rfl, ended, reduced⟩
    | broken fault =>
      simp only [ended] at reduced
      cases reduced
    | cutOff =>
      simp only [ended] at reduced
      cases reduced
    | hollowContainer =>
      simp only [ended] at reduced
      cases reduced

/-- A style sheet that is reduced for a request keeps the verbatim at-rules of the sheet that was
read, but for those about pages of paper and those in media blocks that cannot match. -/
theorem keepsVerbatim_reduce {conditions : Conditions} {request : Request} {css text : String}
    {reading : Reading} {deadline : Nat} {page : Browser.Page} {progress : Progress}
    (read : Stylesheet.read css = .ok reading)
    (reduced : (reduce conditions request reading deadline page progress).2 = .css text)
    : ∃ settings patterns chosen tidied,
        selectionSettings conditions.setup.config request = .ok settings
        ∧ Tidy.compilePatterns request.unwanted = .ok patterns
        ∧ chosen
          = (Selection.run settings conditions.probe progress.clock (some deadline)
              reading.sheet).sheet
        ∧ tidied = (Tidy.run patterns request.payloadLimit chosen).sheet
        ∧ Stylesheet.print tidied = .ok text
        ∧ KeepsVerbatim ⟨request.viewport, request.keepLarger⟩ patterns request.payloadLimit
            reading.sheet chosen tidied := by
  have textual := Stylesheet.textual_read read
  obtain ⟨settings, after, found, done, finished⟩ := finish_of_reduce reduced
  obtain ⟨patterns, compiled, printed⟩ := print_of_finish finished
  obtain ⟨critical, _, pruned⟩ := Selection.exists_pruned_of_done textual done
  refine ⟨settings, patterns, _, _, found, compiled, rfl, rfl, printed, ?_⟩
  rw [pruned, ← scope_of_selectionSettings found]
  exact keepsVerbatim_pruneNodes textual settings.scope _ patterns request.payloadLimit

/-- The text that an ending gives, if any. -/
def Ending.text? : Ending → Option String
  | css text => some text
  | _ => none

theorem Ending.eq_css_of_text? {ending : Ending} {text : String}
    (given : ending.text? = some text)
    : ending = .css text := by
  cases ending with
  | css found => exact congrArg Ending.css (Option.some.inj given)
  | failed failure => cases given
  | cutOff => cases given

/-- A sheet with verbatim at-rules at the top, for pages of paper, in a media block for print, in a
block that holds nothing else that stays, and in keyframes. -/
def strewnSheet : Stylesheet :=
  [.verbatim "import" "url(x)" "@import url(x);" .none .null,
    .verbatim "page" "" "@page;" .none .null,
    .ruleBlock "media" "print" [.verbatim "y" "" "@y;" .none .null],
    .ruleBlock "layer" "a"
      [.style ["b"] [.set "top" "0" false],
        .ruleBlock "supports" "(c)" [.verbatim "z" "" "@z;" .none .null]],
    .ruleBlock "keyframes" "k" [.verbatim "w" "" "@w;" .none .null]]

/-- The text of the sheet. -/
def strewnText : String :=
  "@import url(x); @page; @media print \x7b @y; \x7d"
    ++ "@layer a \x7b b \x7b top: 0 \x7d @supports (c) \x7b @z; \x7d \x7d"
    ++ "@keyframes k \x7b @w; \x7d"

/-- Of the four outside keyframes two stay, one of them alone in its blocks. -/
theorem keepsVerbatim_reduce_strewnSheet
    : Request.readAny {} (bareJson strewnText) = .ok (bareRequest {} strewnText)
      ∧ Stylesheet.read strewnText = .ok ⟨strewnSheet, []⟩
      ∧ (reduce (calmConditions {}) (bareRequest {} strewnText) ⟨strewnSheet, []⟩ 1000 ⟨0, 0⟩
          { pool := { free := 0 } }).2
        = .css "@import url(x);\n@layer a \x7b\n  @supports (c) \x7b\n    @z;\n  \x7d\n\x7d\n"
      ∧ (Stylesheet.verbatims [] strewnSheet).filter
            (Scope.suits ⟨({} : Config).viewport, false⟩)
          = [⟨[], "import", "url(x)", "@import url(x);"⟩,
            ⟨[("layer", "a"), ("supports", "(c)")], "z", "", "@z;"⟩]
      ∧ ∃ patterns chosen tidied,
          KeepsVerbatim ⟨({} : Config).viewport, false⟩ patterns ({} : Config).payloadLimit
            strewnSheet chosen tidied := by
  have read : Stylesheet.read strewnText = .ok ⟨strewnSheet, []⟩ :=
    Stylesheet.read_of_reads (by decide +kernel)
  have reduced
      : (reduce (calmConditions {}) (bareRequest {} strewnText) ⟨strewnSheet, []⟩ 1000 ⟨0, 0⟩
          { pool := { free := 0 } }).2
        = .css "@import url(x);\n@layer a \x7b\n  @supports (c) \x7b\n    @z;\n  \x7d\n\x7d\n" :=
    Ending.eq_css_of_text? (by decide +kernel)
  obtain ⟨settings, patterns, chosen, tidied, _, _, _, _, _, keeps⟩ :=
    keepsVerbatim_reduce read reduced
  exact ⟨readAny_bareJson {} (by decide +kernel), read, reduced, by decide +kernel, patterns,
    chosen, tidied, keeps⟩

end Extraction

end CriticalCss
