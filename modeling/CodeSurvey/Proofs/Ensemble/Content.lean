import CodeSurvey.Proofs.Ensemble.Integration
import CodeSurvey.Proofs.Fusion.Specification
import CodeSurvey.Proofs.Gate.Specification

/-!
# When several views tell nothing

The base of a reconciled text is chosen with the blanks around it and told without them.  So a view
of nothing but blanks can be the base, and of the others only terms in title case are told.  This
file says exactly when nothing is told of several views, and what becomes of their entity.

## Main results

* `Ensemble.Lost`: views of which nothing is told.
* `Ensemble.isBlankText_integrate_iff`: there are no others.
* `Ensemble.content_lost_iff`: the entity of such views is stored without a summary, and the
  evaluation finds it missing.
* `Ensemble.content_lost_of_blank_view`: views may be lost although one of them is not blank.
-/

namespace CodeSurvey
namespace Ensemble

open ExpertView (FirstLongest)

/-- Whether nothing is told of several views: the first one of the greatest length is blank, and the
words of the others are no terms. -/
def Lost (views : List ExpertView) : Prop :=
  ∃ view others bare, FirstLongest views view others ∧ BareWords others bare ∧
    Text.isBlankText view.text = true ∧ ∀ word ∈ bare, ¬ TitleCase word.toList

section Content

variable {views others : List ExpertView} {view : ExpertView} {base : String} {bare : List String}

/-! ## Blank texts -/

/-- An empty base contains no term. -/
theorem newTerm_empty_iff (word : String) : NewTerm "" word ↔ TitleCase word.toList := by
  constructor
  · exact NewTerm.titleCase
  · intro htitle
    refine ⟨htitle, ?_⟩
    rcases htitle with ⟨first, rest, hword, -⟩
    simp [hword]

/-- What is told behind a base is not blank. -/
theorem isBlankText_withTerms (base : String) (terms : List String) :
    Text.isBlankText (withTerms base terms) = (Text.isBlankText base && terms.isEmpty) := by
  unfold withTerms
  by_cases hnil : terms.isEmpty = true
  · rw [if_pos hnil, hnil, Bool.and_true]
  · have hwords : Text.isBlankText " Related aspects: " = false := by
      decide
    rw [if_neg hnil, Bool.eq_false_iff.2 hnil]
    simp only [Text.isBlankText_append, hwords, Bool.and_false, Bool.false_and]

theorem isBlankText_integrate (hlongest : FirstLongest views view others)
    (hbare : BareWords others bare) :
    Text.isBlankText (integrate views) = true ↔
      Text.isBlankText view.text = true ∧ ∀ word ∈ bare, ¬ TitleCase word.toList := by
  have htaken : ((newTerms (Text.trim view.text) bare).take maxRelatedTerms).isEmpty = true ↔
      ∀ word ∈ bare, ¬ NewTerm (Text.trim view.text) word := by
    rw [← newTerms_eq_nil_iff, List.isEmpty_iff, List.take_eq_nil_iff]
    simp [maxRelatedTerms]
  rw [integrate_eq hlongest hbare, isBlankText_withTerms, Bool.and_eq_true, Text.isBlankText_trim,
    htaken]
  apply and_congr_right
  intro hblank
  -- The base is empty, so that every term is new to it.
  have hempty : Text.trim view.text = "" := by
    rw [← String.isEmpty_iff, Text.isEmpty_trim, hblank]
  simp only [hempty, newTerm_empty_iff]

/-- Nothing is told of no views, and of lost ones. -/
theorem isBlankText_integrate_iff (views : List ExpertView) :
    Text.isBlankText (integrate views) = true ↔ views = [] ∨ Lost views := by
  cases hbase : ExpertView.base? views with
  | none =>
      have hnil := ExpertView.base?_eq_none_iff.1 hbase
      subst hnil
      simp [integrate, ExpertView.base?, Text.isBlankText]
  | some found =>
      rcases found with ⟨view, others⟩
      have hlongest := ExpertView.base?_eq_some_iff.1 hbase
      have hne : views ≠ [] := by
        intro hnil
        rw [hnil] at hbase
        cases hbase
      constructor
      · intro hblank
        have hbare : BareWords others _ := (bareWords_iff others _).2 rfl
        have hlost := (isBlankText_integrate hlongest hbare).1 hblank
        exact .inr ⟨view, others, _, hlongest, hbare, hlost.1, hlost.2⟩
      · rintro (hnil | ⟨view, others, bare, hlongest, hbare, hblank, hwords⟩)
        · exact absurd hnil hne
        · exact (isBlankText_integrate hlongest hbare).2 ⟨hblank, hwords⟩

/-! ## The entity of lost views -/

/-- Whatever the thresholds, a blank summary counts as missing. -/
theorem isMissing_of_isBlankText {summary : String} (h : Text.isBlankText summary = true)
    (thresholds : Thresholds) : thresholds.isMissing summary = true := by
  simp [Thresholds.isMissing, Text.isEmpty_trim, h]

section Fused

variable {ladder : Ladder} {inputs : FusionInputs} {targets : Option TargetSet} {store : Store}
  {events : List Event}

/-- In ensemble mode the entity of a summary with views is stored with the reconciled text. -/
theorem fused_integrate {fused : Store} {report : FusionReport} {record : SummaryRecord}
    (hcourse : (Fusion.fuse ladder true inputs targets store).Course events
      (some (fused, report)))
    (htakes : Fusion.takesPart targets record.id = true)
    (hlast : inputs.lastSummary? record.id = some record) (hviews : record.views ≠ []) :
    ∃ entity, fused.get? record.id = some entity ∧ entity.summary = integrate record.views := by
  obtain ⟨outcome, -, hmerged⟩ := Fusion.course_fuse_by hcourse
  have hstore : fused = (Fusion.merge true inputs targets
      (Fusion.stepsBy outcome (Fusion.uncoveredNodes inputs targets))
      (Fusion.base targets store)).1 :=
    congrArg Prod.fst (Option.some.inj hmerged)
  rw [hstore, Fusion.get?_merge, if_pos htakes, Fusion.told, hlast]
  refine ⟨_, rfl, ?_⟩
  rw [(Fusion.ofSummary_primaryEntity record).summary, if_pos ⟨rfl, hviews⟩]

/-- A reconciled text is blank exactly if its views are lost, provided that there are any.  In
ensemble mode the entity of lost views is stored without a summary, whatever the text of its record,
and every evaluation finds it missing and asks for a selective retry. -/
theorem content_lost_iff (hkeyed : store.Keyed) {result : Option (Store × FusionReport)}
    (hcourse : (Fusion.fuse ladder true inputs targets store).Course events result) :
    (∀ views, (∃ view ∈ views, Text.isBlankText view.text = false) →
      (Text.isBlankText (integrate views) = true ↔ Lost views)) ∧
    ∃ fused report, result = some (fused, report) ∧
      ∀ record : SummaryRecord, Fusion.takesPart targets record.id = true →
        inputs.lastSummary? record.id = some record → record.views ≠ [] →
        ∃ entity, fused.get? record.id = some entity ∧
          entity.summary = integrate record.views ∧
          ∀ (evaluator : Evaluator) (scope : Option TargetSet) (retryCount : UInt32)
              (calls : List Event) (scored : Store) (evaluation : Evaluation),
            (evaluator.evaluate fused scope retryCount).Course calls (some (scored, evaluation)) →
            Lost record.views →
            evaluation.missing.contains record.id = true ∧
              evaluation.decision = .retrySubset := by
  constructor
  · rintro views ⟨view, hview, -⟩
    rw [isBlankText_integrate_iff]
    exact or_iff_right (List.ne_nil_of_mem hview)
  · obtain ⟨outcome, -, hmerged⟩ := Fusion.course_fuse_by hcourse
    obtain ⟨⟨fused, report⟩, rfl⟩ : ∃ fused, result = some fused := ⟨_, hmerged⟩
    refine ⟨fused, report, rfl, ?_⟩
    intro record htakes hlast hviews
    obtain ⟨entity, hentity, hsummary⟩ := fused_integrate hcourse htakes hlast hviews
    refine ⟨entity, hentity, hsummary, ?_⟩
    intro evaluator scope retryCount calls scored evaluation hevaluated hlost
    have hblank : Text.isBlankText entity.summary = true := by
      rw [hsummary, isBlankText_integrate_iff]
      exact .inr hlost
    obtain ⟨hmissing, hretry⟩ :=
      Evaluator.missing_of_course (Fusion.keyed_of_course hkeyed hcourse) hentity hevaluated
    have hcounts := isMissing_of_isBlankText hblank evaluator.thresholds
    exact ⟨hmissing.2 hcounts, hretry hcounts⟩

end Fused

end Content

end Ensemble

/-! ## A blank view -/

namespace BlankView

/-- A view of twenty blanks. -/
def blank : ExpertView := ⟨"logic", "                    "⟩

/-- A shorter view, which tells something. -/
def intent : ExpertView := ⟨"intent", "reads the file."⟩

def record : SummaryRecord :=
  ⟨⟨"a.py"⟩, "Reads the configuration file.", 1, .file, [blank, intent]⟩

/-- The file with the two views is all there is. -/
def inputs : FusionInputs := ⟨[record], ⟨[], []⟩, [], []⟩

/-- A host on which every call takes too long. -/
def host : Host Unit where
  cancelled _ := false
  answer request state := (request.anyAnswer, state)

def fusion : Plan (Store × FusionReport) := Fusion.fuse .standard true inputs none .empty

/-- The store after a full fusion. -/
def fused : Store := ((fusion.run host ()).1.map (·.1)).getD .empty

def evaluator : Evaluator where
  similarity := .cosine
  strategy := .threshold
  thresholds := .default
  maxConcurrentCalls := 4

def evaluation : Plan (Store × Evaluation) := evaluator.evaluate fused none 0

theorem lost : Ensemble.Lost record.views := by
  refine ⟨blank, [intent], ["reads", "the", "file"], ⟨[], [intent], rfl, rfl, ?_, ?_⟩, ?_, rfl, ?_⟩
  · decide
  · decide
  · exact (Ensemble.bareWords_iff _ _).2 (by decide +kernel)
  · intro word hword htitle
    have hnone : ∀ word ∈ ["reads", "the", "file"], ¬ Ensemble.NewTerm "" word := by
      decide +kernel
    exact hnone word hword ((Ensemble.newTerm_empty_iff word).2 htitle)

end BlankView

namespace Ensemble

/-- The file is summarized, and stored without a summary. -/
theorem content_lost_two_views :
    Text.isBlankText (integrate BlankView.record.views) = true ∧
    ∃ fused report scored evaluation,
      (BlankView.fusion.run BlankView.host ()).1 = some (fused, report) ∧
      (BlankView.evaluation.run BlankView.host ()).1 = some (scored, evaluation) ∧
      (∃ entity, fused.get? BlankView.record.id = some entity ∧ entity.summary = "") ∧
      evaluation.missing.contains BlankView.record.id = true ∧
      evaluation.decision = .retrySubset := by
  obtain ⟨hblank, fused, report, hfused, hrecord⟩ := content_lost_iff Store.keyed_empty
    (Plan.course_run BlankView.host BlankView.fusion ())
  have hintent : Text.isBlankText BlankView.intent.text = false := by
    decide
  have htold := (hblank BlankView.record.views ⟨BlankView.intent, by decide, hintent⟩).2
    BlankView.lost
  obtain ⟨entity, hentity, hsummary, hevaluate⟩ :=
    hrecord BlankView.record rfl rfl (by decide)
  have hempty : integrate BlankView.record.views = "" := by
    decide +kernel
  rw [hempty] at hsummary
  have hsome : (BlankView.evaluation.run BlankView.host ()).1.isSome = true := by
    decide +kernel
  obtain ⟨⟨scored, evaluation⟩, hresult⟩ := Option.isSome_iff_exists.1 hsome
  have hsame : BlankView.fused = fused := by
    rw [BlankView.fused, hfused]
    rfl
  have hcourse := Plan.course_run BlankView.host BlankView.evaluation ()
  rw [hresult, BlankView.evaluation, hsame] at hcourse
  obtain ⟨hmissing, hretry⟩ :=
    hevaluate BlankView.evaluator none 0 _ scored evaluation hcourse BlankView.lost
  exact ⟨htold, fused, report, scored, evaluation, hfused, hresult, ⟨entity, hentity, hsummary⟩,
    hmissing, hretry⟩

/-- The content of a view may be lost: a longer one may be blank. -/
theorem content_lost_of_blank_view :
    ¬ ∀ views, (∃ view ∈ views, Text.isBlankText view.text = false) →
      Text.isBlankText (integrate views) = false := by
  intro hkept
  have htold := hkept BlankView.record.views ⟨BlankView.intent, by decide, by decide⟩
  have hblank : Text.isBlankText (integrate BlankView.record.views) = true := by
    decide +kernel
  rw [hblank] at htold
  cases htold

end Ensemble
end CodeSurvey
