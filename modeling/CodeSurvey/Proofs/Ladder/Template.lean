import CodeSurvey.Proofs.Fusion.Specification
import CodeSurvey.Proofs.Gate.Specification
import CodeSurvey.Proofs.Text.Blank

/-!
# What the gate makes of the template

The template is the last rung of the ladder.  It is rendered from the structure of a node and never
declines, so that an entity about which nothing else can be had still has a summary.  The gate takes
a summary for missing if it is too short or contains the mark of an error.  The template is always
long enough, and its own words contain no such mark; but it also contains the name of the node.  So
an entity that is named for an error counts as missing, whatever is known about it, and forces a
selective retry by itself.

## Main results

* `Text.infix_templateSummary_iff`: a word occurs in the template exactly if it occurs in one of its
  parts.
* `Thresholds.isMissing_templateSummary_iff`: the default thresholds take the template for missing
  exactly if the name of the node contains the error marker.
* `Ladder.resolve_standard_of_declined`: when the standard ladder comes down to the template.
* `Ladder.template_missing_iff`: what this means for a node that comes down to the template.
* `Ladder.template_missing_of_error_name`: a node whose template counts as missing.
-/

namespace CodeSurvey

/-! ## The words of the template -/

/-- What the template calls a node. -/
def StructuralNode.shownName (node : StructuralNode) : String :=
  if node.label.isEmpty then node.id.label else node.label

theorem templateSummary_eq (node : StructuralNode) :
    templateSummary node =
      "Internal " ++ node.kind.name ++ " component " ++ node.shownName ++ " taking " ++
        node.args.length.repr ++ " argument" ++ (if node.args.length = 1 then "" else "s") ++ "." :=
  rfl

/-- The parts of the template between its blanks.  A name may contain blanks of its own. -/
def templateParts (node : StructuralNode) : List (List Char) := [
  "Internal".toList, node.kind.name.toList, "component".toList, node.shownName.toList,
  "taking".toList, node.args.length.repr.toList,
  (if node.args.length = 1 then "argument." else "arguments.").toList]

/-- The template is a sentence of these parts. -/
theorem toList_templateSummary (node : StructuralNode) :
    (templateSummary node).toList = [' '].intercalate (templateParts node) := by
  rw [templateSummary_eq, templateParts]
  split <;> simp [List.intercalate]

/-- A pattern without blanks occurs in the template exactly if it occurs in one of its parts. -/
theorem Text.infix_templateSummary_iff {pattern : List Char} (hblank : ' ' ∉ pattern)
    (hne : pattern ≠ []) (node : StructuralNode) :
    pattern <:+: (templateSummary node).toList ↔
      ∃ part ∈ templateParts node, pattern <:+: part := by
  rw [toList_templateSummary, Text.infix_sentence_iff hblank hne]

/-- The template ends with a full stop. -/
theorem getLast?_templateSummary (node : StructuralNode) :
    (templateSummary node).toList.getLast? = some '.' := by
  rw [templateSummary_eq, String.toList_append]
  exact List.getLast?_concat

/-- The template neither begins nor ends with a blank. -/
theorem trim_templateSummary (node : StructuralNode) :
    Text.trim (templateSummary node) = templateSummary node := by
  apply Text.trim_eq_self
  · simp [templateSummary_eq, Text.isBlank]
  · rw [getLast?_templateSummary]
    simp [Text.isBlank]

/-- The fixed words alone are long enough for the gate. -/
theorem le_length_templateSummary (node : StructuralNode) : 20 ≤ (templateSummary node).length := by
  have hfirst : "Internal ".length = 9 := by decide
  have hsecond : " component ".length = 11 := by decide
  simp only [templateSummary_eq, String.length_append, hfirst, hsecond]
  omega

theorem isEmpty_templateSummary (node : StructuralNode) :
    (templateSummary node).isEmpty = false := by
  rw [String.isEmpty_eq_false_iff]
  intro hnil
  have hlong := le_length_templateSummary node
  rw [hnil] at hlong
  exact absurd hlong (by decide)

/-! ## The error marker -/

/-- Among the parts of the template only the name may contain the error marker. -/
theorem infix_error_templateSummary_iff (node : StructuralNode) :
    "Error".toList <:+: (templateSummary node).toList ↔
      "Error".toList <:+: node.shownName.toList := by
  have hfixed : ∀ part : List Char, 'E' ∉ part → ¬"Error".toList <:+: part := by
    intro part hpart hoccurs
    exact hpart (hoccurs.subset (by decide))
  have hkind : 'E' ∉ node.kind.name.toList := by
    cases node.kind <;> decide
  have hcount : 'E' ∉ node.args.length.repr.toList := by
    rw [Nat.toList_repr]
    intro hdigit
    exact absurd (Nat.isDigit_of_mem_toDigits (by decide) (by decide) hdigit) (by decide)
  have hending : 'E' ∉ (if node.args.length = 1 then "argument." else "arguments.").toList := by
    split <;> decide
  rw [Text.infix_templateSummary_iff (by decide) (by decide)]
  simp only [templateParts, List.mem_cons, List.not_mem_nil, or_false, exists_eq_or_imp,
    exists_eq_left, hfixed _ hkind, hfixed _ hcount, hfixed _ hending,
    hfixed "Internal".toList (by decide), hfixed "component".toList (by decide),
    hfixed "taking".toList (by decide), false_or]

/-- The default thresholds take the template for missing exactly if the name of the node contains
the error marker. -/
theorem Thresholds.isMissing_templateSummary_iff (node : StructuralNode) :
    Thresholds.default.isMissing (templateSummary node) = true ↔
      "Error".toList <:+: node.shownName.toList := by
  have hlong := le_length_templateSummary node
  have hshort : ¬(templateSummary node).length < Thresholds.default.minSummaryLength := by
    change ¬(templateSummary node).length < 10
    omega
  have hmarkers : Thresholds.default.errorMarkers = ["Error"] := rfl
  rw [Thresholds.isMissing, trim_templateSummary, isEmpty_templateSummary,
    decide_eq_false hshort, hmarkers]
  simp only [Bool.false_or, List.any_cons, List.any_nil, Bool.or_false, Text.hasInfix_iff]
  exact infix_error_templateSummary_iff node

/-! ## What is not blank -/

/-- A text is told as not blank if it is given and holds anything else than blanks. -/
theorem nonBlank_eq_some_iff {given : Option String} {text : String} :
    nonBlank given = some text ↔ given = some text ∧ Text.isBlankText text = false := by
  simp [nonBlank, Option.filter_eq_some_iff]

/-- A given text is passed over if it holds nothing but blanks. -/
theorem nonBlank_some_eq_none_iff {text : String} :
    nonBlank (some text) = none ↔ Text.isBlankText text = true := by
  simp [nonBlank, Option.filter_eq_none_iff]

/-- What is not blank is not blank without the blanks around it. -/
theorem nonBlank_trim {given : Option String} {text : String} (h : nonBlank given = some text) :
    nonBlank (some (Text.trim text)) = some (Text.trim text) := by
  rw [nonBlank_eq_some_iff, Text.isBlankText_trim]
  exact ⟨rfl, (nonBlank_eq_some_iff.1 h).2⟩

/-- The template is never blank. -/
theorem nonBlank_templateSummary (node : StructuralNode) :
    nonBlank (some (templateSummary node)) = some (templateSummary node) := by
  rw [nonBlank_eq_some_iff, ← Text.isEmpty_trim, trim_templateSummary]
  exact ⟨rfl, isEmpty_templateSummary node⟩

/-- The documentation of a node is its documentation comment without the blanks around it, and there
is none if the comment is blank. -/
theorem documentation_eq (node : StructuralNode) :
    documentation node = (nonBlank node.docstring).map Text.trim := by
  rw [documentation, nonBlank, Option.filter_map]
  congr 2
  funext text
  rw [Function.comp_apply, Text.isEmpty_trim]

/-! ## Coming down to the template -/

/-- Whether the summarizer gives nothing about an identity: each call about it fails, takes too long
or is answered by a blank text. -/
def Event.Declined (id : EntityId) (events : List Event) : Prop :=
  ∀ code (answer : Outcome Failure String),
    .answered (.summarizeSnippet id code) answer ∈ events →
      answer ≠ .panicked ∧ ∀ text, answer = .ok text → Text.isBlankText text = true

namespace Ladder

variable {node : StructuralNode}

/-- A tier tells its text if the text is not blank, and hands over to the next one otherwise. -/
theorem resolveFrom_cons (node : StructuralNode) (place : Nat) (tier : Tier) (rest : Ladder) :
    resolveFrom node place (tier :: rest) = (tier.attempt place node).bind fun text =>
      match nonBlank text with
      | some text => .done ⟨Text.trim text, tier.name⟩
      | none => resolveFrom node (place + 1) rest := by
  rw [resolveFrom, Plan.bind_eq]
  congr 1
  funext text
  cases text with
  | none => rfl
  | some text =>
      cases hblank : Text.isBlankText text <;>
        simp [nonBlank, Option.filter, Text.isEmpty_trim, hblank]

/-- A node without a documentation comment, or with a blank one, is handed over to the next
tier. -/
theorem resolveFrom_docComment_of_none (hdoc : nonBlank node.docstring = none) (place : Nat)
    (rest : Ladder) :
    resolveFrom node place (.docComment :: rest) = resolveFrom node (place + 1) rest := by
  rw [resolveFrom_cons, Tier.attempt, Plan.done_bind, documentation_eq, hdoc]
  rfl

/-- A documentation comment that is not blank is the summary, without the blanks around it. -/
theorem resolveFrom_docComment_of_some {text : String} (hdoc : nonBlank node.docstring = some text)
    (place : Nat) (rest : Ladder) :
    resolveFrom node place (.docComment :: rest) =
      .done ⟨Text.trim text, Tier.name .docComment⟩ := by
  rw [resolveFrom_cons, Tier.attempt, Plan.done_bind, documentation_eq, hdoc, Option.map_some,
    nonBlank_trim hdoc]
  simp only [Text.trim_trim]

/-- The template never declines. -/
theorem resolveFrom_template (place : Nat) (rest : Ladder) :
    resolveFrom node place (.template :: rest) =
      .done ⟨templateSummary node, Tier.name .template⟩ := by
  rw [resolveFrom_cons, Tier.attempt, Plan.done_bind, nonBlank_templateSummary]
  simp only [trim_templateSummary]

/-- Without a documentation comment, and without help of the summarizer, the standard ladder comes
down to the template. -/
theorem resolve_standard_of_declined {events : List Event} {result : Option LadderOutcome}
    (hdoc : nonBlank node.docstring = none)
    (hcourse : (standard.resolve node).Course events result)
    (hdeclined : Event.Declined node.id events) :
    result = some ⟨templateSummary node, Tier.name .template⟩ := by
  simp only [resolve, standard, resolveFrom_docComment_of_none hdoc, resolveFrom_cons node 1,
    resolveFrom_template] at hcourse
  obtain ⟨answer, rest, hrest, rfl⟩ := Plan.course_ask_iff.1 hcourse
  obtain ⟨hreturned, hblank⟩ := hdeclined _ answer List.mem_cons_self
  cases answer with
  | panicked => exact absurd rfl hreturned
  | ok text =>
      have hnone : nonBlank (some text) = none := nonBlank_some_eq_none_iff.2 (hblank text rfl)
      simp only [Plan.pure_eq_done, Plan.done_bind, hnone] at hrest
      exact (Plan.course_done_iff.1 hrest).2
  | failed error => exact (Plan.course_done_iff.1 hrest).2
  | timedOut => exact (Plan.course_done_iff.1 hrest).2

section Fused

variable {ensembleMode : Bool} {inputs : FusionInputs} {targets : Option TargetSet} {store : Store}
  {events : List Event}

/-- A node that comes down to the template is stored with it. -/
theorem fused_template {fused : Store} {report : FusionReport}
    (hcourse : (Fusion.fuse standard ensembleMode inputs targets store).Course events
      (some (fused, report)))
    (htakes : Fusion.takesPart targets node.id = true)
    (hsummary : inputs.lastSummary? node.id = none)
    (hfirst : inputs.firstNode? node.id = some node) (hdoc : nonBlank node.docstring = none)
    (hdeclined : Event.Declined node.id events) :
    ∃ entity, fused.get? node.id = some entity ∧ entity.summary = templateSummary node := by
  obtain ⟨outcome, htried, hmerged⟩ := Fusion.course_fuse_by hcourse
  have hstore : fused = (Fusion.merge ensembleMode inputs targets
      (Fusion.stepsBy outcome (Fusion.uncoveredNodes inputs targets))
      (Fusion.base targets store)).1 :=
    congrArg Prod.fst (Option.some.inj hmerged)
  have hnode : node ∈ Fusion.uncoveredNodes inputs targets :=
    (Fusion.mem_uncoveredNodes_iff node).2 ⟨htakes, hsummary, hfirst⟩
  obtain ⟨calls, hladder, hsubset⟩ := htried.exists_calls
    (List.mem_map_of_mem (f := fun node => (node, outcome node)) hnode)
  have hresolved : outcome node = some ⟨templateSummary node, Tier.name .template⟩ :=
    resolve_standard_of_declined hdoc hladder
      fun code answer hanswer => hdeclined code answer (hsubset hanswer)
  rw [hstore, Fusion.get?_merge, if_pos htakes, Fusion.told, hsummary]
  simp only [hfirst, Option.map_some, hresolved, Option.some_or]
  exact ⟨_, rfl, rfl⟩

end Fused

/-- An evaluation by the default thresholds finds an entity with a template missing exactly if the
name of its node contains the error marker, and then asks for a selective retry. -/
theorem evaluate_template {evaluator : Evaluator} {scope : Option TargetSet} {store scored : Store}
    {retryCount : UInt32} {calls : List Event} {evaluation : Evaluation} {entity : Entity}
    (hkeyed : store.Keyed) (hdefault : evaluator.thresholds = .default)
    (hentity : store.get? node.id = some entity) (htemplate : entity.summary = templateSummary node)
    (hcourse : (evaluator.evaluate store scope retryCount).Course calls
      (some (scored, evaluation))) :
    (evaluation.missing.contains node.id = true ↔ "Error".toList <:+: node.shownName.toList) ∧
      ("Error".toList <:+: node.shownName.toList → evaluation.decision = .retrySubset) := by
  have hmissing := Evaluator.missing_of_course hkeyed hentity hcourse
  rw [hdefault, htemplate, Thresholds.isMissing_templateSummary_iff] at hmissing
  exact hmissing

/-- The template counts as missing exactly if it names the node for an error.  So a node without a
documentation comment and without help of the summarizer counts as summarized after a fusion, and
its template leaves the decision to the scores, unless its name contains the error marker: then the
evaluation finds it missing and asks for a selective retry. -/
theorem template_missing_iff {ensembleMode : Bool} {inputs : FusionInputs}
    {targets : Option TargetSet} {store : Store} {events : List Event}
    {result : Option (Store × FusionReport)} (hkeyed : store.Keyed)
    (hcourse : (Fusion.fuse standard ensembleMode inputs targets store).Course events result) :
    (∀ node : StructuralNode, Thresholds.default.isMissing (templateSummary node) = true ↔
      "Error".toList <:+: node.shownName.toList) ∧
    ∃ fused report, result = some (fused, report) ∧
      ∀ node : StructuralNode, Fusion.takesPart targets node.id = true →
        inputs.lastSummary? node.id = none → inputs.firstNode? node.id = some node →
        nonBlank node.docstring = none → Event.Declined node.id events →
        (∃ entity, fused.get? node.id = some entity ∧ entity.summary = templateSummary node) ∧
        ∀ (evaluator : Evaluator) (scope : Option TargetSet) (retryCount : UInt32)
            (calls : List Event) (scored : Store) (evaluation : Evaluation),
          evaluator.thresholds = .default →
          (evaluator.evaluate fused scope retryCount).Course calls (some (scored, evaluation)) →
          (evaluation.missing.contains node.id = true ↔
            "Error".toList <:+: node.shownName.toList) ∧
          ("Error".toList <:+: node.shownName.toList → evaluation.decision = .retrySubset) := by
  refine ⟨Thresholds.isMissing_templateSummary_iff, ?_⟩
  obtain ⟨outcome, -, hmerged⟩ := Fusion.course_fuse_by hcourse
  obtain ⟨⟨fused, report⟩, rfl⟩ : ∃ fused, result = some fused := ⟨_, hmerged⟩
  refine ⟨fused, report, rfl, ?_⟩
  intro node htakes hsummary hfirst hdoc hdeclined
  obtain ⟨entity, hentity, htemplate⟩ :=
    fused_template hcourse htakes hsummary hfirst hdoc hdeclined
  refine ⟨⟨entity, hentity, htemplate⟩, ?_⟩
  intro evaluator scope retryCount calls scored evaluation hdefault hevaluated
  exact evaluate_template (Fusion.keyed_of_course hkeyed hcourse) hdefault hentity htemplate hevaluated

end Ladder

/-! ## A class of errors -/

namespace ErrorClass

/-- A class that is named for the errors it stands for, without a documentation comment. -/
def node : StructuralNode := .new ⟨"a.py::ValueError"⟩ .classType

/-- The class is all there is. -/
def inputs : FusionInputs := ⟨[], ⟨[node], []⟩, [], []⟩

/-- A host on which every call takes too long. -/
def host : Host Unit where
  cancelled _ := false
  answer request state := (request.anyAnswer, state)

def fusion : Plan (Store × FusionReport) := Fusion.fuse .standard true inputs none .empty

/-- The store after a full fusion. -/
def fused : Store := ((fusion.run host ()).1.map (·.1)).getD .empty

def evaluator : Evaluator where
  similarity := .cosine
  strategy := .threshold
  thresholds := .default
  maxConcurrentCalls := 4

def evaluation : Plan (Store × Evaluation) := evaluator.evaluate fused none 0

/-- The summarizer never answers in time. -/
theorem declined : Event.Declined node.id (fusion.events host ()) := by
  have hlate : ∀ event ∈ fusion.events host (), ∀ code answer,
      event = .answered (.summarizeSnippet node.id code) answer → answer = .timedOut := by
    apply Plan.forall_mem_events
    · simp
    · rintro request state code answer ⟨⟩
      rfl
  intro code answer hevent
  rw [hlate _ hevent code answer rfl]
  exact ⟨by simp, by simp⟩

end ErrorClass

namespace Ladder

/-- The class gets a template, and the evaluation after the fusion asks for its summary again. -/
theorem template_missing_error_class :
    ∃ fused report scored evaluation,
      (ErrorClass.fusion.run ErrorClass.host ()).1 = some (fused, report) ∧
      (ErrorClass.evaluation.run ErrorClass.host ()).1 = some (scored, evaluation) ∧
      (∃ entity, fused.get? ErrorClass.node.id = some entity ∧
        entity.summary = "Internal class component ValueError taking 0 arguments.") ∧
      evaluation.missing.contains ErrorClass.node.id = true ∧
      evaluation.decision = .retrySubset := by
  obtain ⟨-, fused, report, hfused, hnode⟩ := template_missing_iff Store.keyed_empty
    (Plan.course_run ErrorClass.host ErrorClass.fusion ())
  obtain ⟨hentity, hevaluate⟩ := hnode ErrorClass.node rfl (by decide +kernel) (by decide +kernel)
    rfl ErrorClass.declined
  have hsome : (ErrorClass.evaluation.run ErrorClass.host ()).1.isSome = true := by
    decide +kernel
  obtain ⟨⟨scored, evaluation⟩, hresult⟩ := Option.isSome_iff_exists.1 hsome
  have hsame : ErrorClass.fused = fused := by
    rw [ErrorClass.fused, hfused]
    rfl
  have hcourse := Plan.course_run ErrorClass.host ErrorClass.evaluation ()
  rw [hresult, ErrorClass.evaluation, hsame] at hcourse
  obtain ⟨hmissing, hretry⟩ := hevaluate ErrorClass.evaluator none 0 _ scored evaluation rfl hcourse
  have herror : "Error".toList <:+: ErrorClass.node.shownName.toList := by
    decide +kernel
  exact ⟨fused, report, scored, evaluation, hfused, hresult, hentity, hmissing.2 herror,
    hretry herror⟩

/-- The template of a node may count as missing: a class may be named for an error. -/
theorem template_missing_of_error_name :
    ¬ ∀ node : StructuralNode, Thresholds.default.isMissing (templateSummary node) = false := by
  intro hpresent
  have hmissing : Thresholds.default.isMissing (templateSummary ErrorClass.node) = true := by
    decide +kernel
  rw [hpresent] at hmissing
  cases hmissing

end Ladder

end CodeSurvey
