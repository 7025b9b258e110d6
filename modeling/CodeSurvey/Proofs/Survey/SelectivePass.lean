import CodeSurvey.Proofs.Survey.Rounds

/-!
# Selective passes

A selective pass is aimed at the entities that were missing or weak in the evaluation before.  So
its targets are stored entities, and no missing entity is left out of them.  From this follows that
the pass touches its targets alone, whatever the stages return: neither does a fusion make another
entity, nor does the evaluation write a score elsewhere.

## Main results

* `Survey.Aimed`: what is known of the targets before a pass.
* `Survey.selective_pass_isolation`: a selective pass keeps the stored identities, and all entities
  that are no targets.
-/

namespace CodeSurvey
namespace Survey

variable {setup : Setup} {snapshot : Snapshot} {run : Run} {progress : Progress}
  {events : List Event}

/-! ## The aim of a pass -/

/-- The targets of the next pass are stored, and every missing entity is among them. -/
structure Aimed (setup : Setup) (targets : TargetSet) (store : Store) : Prop where
  stored : ∀ id, targets.contains id = true → store.contains id = true
  missing : ∀ id entity, store.get? id = some entity →
    setup.evaluator.thresholds.isMissing entity.summary = true → targets.contains id = true

/-- Weak entities are stored. -/
theorem contains_of_lowIds {thresholds : Thresholds} {store : Store} (hkeyed : store.Keyed)
    {missing : TargetSet} {id : EntityId}
    (h : (Evaluator.lowIds thresholds (Evaluator.contributors missing store)).contains id = true) :
    store.contains id = true := by
  rw [Evaluator.lowIds, OrderedSet.contains_ofElements] at h
  obtain ⟨entity, hentity, rfl⟩ := List.mem_map.1 h
  have hstored := (List.mem_filter.1 (List.mem_filter.1 hentity).1).1
  rw [hkeyed.mem_entities_iff] at hstored
  rw [Store.contains_eq_isSome, hstored]
  rfl

/-- What an evaluation wants to retry is what it found missing or weak. -/
theorem Finds.aimed {found : Findings} (h : Finds setup snapshot progress events found)
    (hkeyed : progress.store.Keyed) :
    Aimed setup found.evaluation.retryTargets found.scored := by
  obtain ⟨reply, hgraded⟩ := h.graded hkeyed
  have hmerged : (merged setup snapshot progress found.replies found.steps).1.Keyed :=
    merged_keyed hkeyed _ _
  constructor
  · intro id hid
    rw [Evaluation.retryTargets, OrderedSet.contains_union, hgraded.tally] at hid
    rcases hid with hlow | hmissing
    · exact contains_of_lowIds (h.keyed hkeyed) hlow
    · obtain ⟨entity, hentity, _⟩ := (Evaluator.contains_missingIds hmerged id).1 hmissing
      rw [Store.contains_eq_isSome, hgraded.lookup, hentity]
      rfl
  · intro id entity hentity hmissing
    rw [hgraded.lookup] at hentity
    obtain ⟨old, hold, rfl⟩ := Option.map_eq_some_iff.1 hentity
    rw [Evaluator.regraded_summary] at hmissing
    rw [Evaluation.retryTargets, OrderedSet.contains_union, hgraded.tally]
    exact .inr ((Evaluator.contains_missingIds hmerged id).2 ⟨old, hold, hmissing⟩)

/-- After the first pass every selective pass is aimed. -/
theorem Reaches.aimed {rounds : List Round} (h : Reaches setup snapshot run rounds progress)
    (hlater : rounds ≠ []) {targets : TargetSet} (htargets : progress.run.targets = some targets) :
    Aimed setup targets progress.store := by
  cases h with
  | start entries => exact absurd rfl hlater
  | again earlier round =>
      cases passCourse round with
      | again hfound hopen hnext hreports =>
          rename_i found next
          have hnow : next = some targets := htargets
          have hretry : targets = found.evaluation.retryTargets := by
            cases hdecision : found.evaluation.decision <;>
              simp_all [nextTargets]
          rw [hretry]
          exact hfound.aimed earlier.keyed

/-! ## Isolation -/

section Isolation

variable {targets : TargetSet}

/-- A fusion on a selective pass keeps all entities that are no targets. -/
theorem get?_merged_of_not_target (htargets : progress.run.targets = some targets)
    {replies : AnalysisReplies} {steps : List Fusion.Step}
    (hsteps : Fusion.Steps .standard (inputs setup snapshot progress replies) progress.run.targets
      steps) {id : EntityId} (hid : targets.contains id = false) :
    (merged setup snapshot progress replies steps).1.get? id = progress.store.get? id := by
  have hcovers :
      ¬Fusion.Covers (inputs setup snapshot progress replies) progress.run.targets id := by
    intro hcovers
    have hscope := hcovers.inScope
    rw [htargets, inScope_some, hid] at hscope
    cases hscope
  rw [merged, Fusion.get?_merge_of_not_covers hsteps hcovers, htargets, Fusion.base_some]

/-- A fusion on a selective pass whose targets are stored makes no entity that was not there. -/
theorem contains_merged (htargets : progress.run.targets = some targets)
    (haimed : Aimed setup targets progress.store)
    {replies : AnalysisReplies} {steps : List Fusion.Step}
    (hsteps : Fusion.Steps .standard (inputs setup snapshot progress replies) progress.run.targets
      steps) (id : EntityId) :
    (merged setup snapshot progress replies steps).1.contains id = progress.store.contains id := by
  rw [Store.contains_eq_isSome, merged]
  by_cases hcovers : Fusion.Covers (inputs setup snapshot progress replies) progress.run.targets id
  · have hscope := hcovers.inScope
    rw [htargets, inScope_some] at hscope
    obtain ⟨entity, _, _, hentity⟩ := Fusion.get?_merge_of_covers hsteps hcovers
    rw [hentity, haimed.stored id hscope]
    rfl
  · rw [Fusion.get?_merge_of_not_covers hsteps hcovers, htargets, Fusion.base_some,
      Store.contains_eq_isSome]

/-- Regrading keeps what a selective pass is not aimed at: it is neither in scope nor missing. -/
theorem regraded_of_not_target (haimed : Aimed setup targets progress.store)
    (reply : EntityId → Outcome Failure Vector32) {id : EntityId} {entity : Entity}
    (hkeyed : progress.store.Keyed) (hentity : progress.store.get? id = some entity)
    (hid : targets.contains id = false) :
    setup.evaluator.regraded (some targets) reply entity = entity := by
  have hpresent : setup.evaluator.thresholds.isMissing entity.summary = false := by
    rw [← Bool.not_eq_true]
    intro hmissing
    rw [haimed.missing id entity hentity hmissing] at hid
    cases hid
  rw [Evaluator.regraded, hpresent, hkeyed id entity hentity, inScope_some, hid]
  rfl

/-- What an evaluation on a selective pass leaves as it was. -/
theorem Finds.isolated {found : Findings} (h : Finds setup snapshot progress events found)
    (hkeyed : progress.store.Keyed) (htargets : progress.run.targets = some targets)
    (haimed : Aimed setup targets progress.store) :
    (∀ id, found.scored.contains id = progress.store.contains id) ∧
      ∀ id, targets.contains id = false → found.scored.get? id = progress.store.get? id := by
  obtain ⟨reply, hgraded⟩ := h.graded hkeyed
  constructor
  · intro id
    rw [← contains_merged htargets haimed h.steps id, Store.contains_eq_isSome, hgraded.lookup,
      Option.isSome_map, Store.contains_eq_isSome]
  · intro id hid
    rw [hgraded.lookup, get?_merged_of_not_target htargets h.steps hid, htargets]
    cases hentity : progress.store.get? id with
    | none => rfl
    | some entity =>
        rw [Option.map_some, regraded_of_not_target haimed reply hkeyed hentity hid]

end Isolation

/-- A selective pass after the first one keeps the stored identities, and keeps every entity that is
no target as it was, whatever is answered on the pass and wherever it ends. -/
theorem selective_pass_isolation {rounds : List Round} {targets : TargetSet} {ending : PassEnd}
    (hreaches : Reaches setup snapshot run rounds progress) (hlater : rounds ≠ [])
    (htargets : progress.run.targets = some targets)
    (hpass : (pass setup snapshot progress).Course events (some ending)) :
    ending.reached.store.ids = progress.store.ids ∧
      ∀ id, targets.contains id = false →
        ending.reached.store.get? id = progress.store.get? id := by
  have hkeyed : progress.store.Keyed := hreaches.keyed
  have haimed : Aimed setup targets progress.store := hreaches.aimed hlater htargets
  cases passCourse hpass with
  | stopped hhalfway hreports =>
      cases hhalfway with
      | start => exact ⟨rfl, fun _ _ => rfl⟩
      | analyzed replies => exact ⟨rfl, fun _ _ => rfl⟩
      | fused replies hsteps =>
          exact ⟨Store.ids_eq_of_contains (contains_merged htargets haimed hsteps),
            fun id hid => get?_merged_of_not_target htargets hsteps hid⟩
  | accepted hfound hsettle hreports =>
      obtain ⟨hcontains, hsame⟩ := hfound.isolated hkeyed htargets haimed
      exact ⟨Store.ids_eq_of_contains hcontains, hsame⟩
  | again hfound hopen hnext hreports =>
      obtain ⟨hcontains, hsame⟩ := hfound.isolated hkeyed htargets haimed
      exact ⟨Store.ids_eq_of_contains hcontains, hsame⟩

/-- The second pass over two files is made for the second file, and keeps the first one. -/
theorem selective_pass_isolation_two_files :
    TwoFiles.ending.reached.store.ids = TwoFiles.second.store.ids ∧
      TwoFiles.ending.reached.store.get? TwoFiles.a = TwoFiles.second.store.get? TwoFiles.a ∧
      TwoFiles.second.store.contains TwoFiles.a = true := by
  have hisolation := selective_pass_isolation TwoFiles.reaches_second (List.cons_ne_nil _ _)
    TwoFiles.second_targets TwoFiles.course_second
  refine ⟨hisolation.1, hisolation.2 TwoFiles.a ?_, ?_⟩
  · decide
  · decide +kernel

end Survey
end CodeSurvey
