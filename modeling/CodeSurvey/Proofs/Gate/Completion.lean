import CodeSurvey.Proofs.Gate.Courses
import Mathlib.Data.List.Nodup
import Mathlib.Data.List.Perm.Basic
import Mathlib.Logic.Relation

/-!
# Scores in the order of their arrival

The summaries of a pass are embedded concurrently, so many at the same time, and each score arrives
when its call completes.  This file says in which orders the calls may complete, and proves that
none of them makes a difference: an evaluation that writes the scores as they arrive is the one that
writes them in the order of the entities.

## Main results

* `Pool.Completes`: the orders in which jobs that share a limited number of slots may complete.
* `Pool.Completes.perm`: every job completes once.
* `Evaluator.writeScores_perm`: scores of different entities may be written in any order.
* `Evaluator.evaluateArriving_eq`: an evaluation does not depend on the order of arrival.
-/

namespace CodeSurvey

/-! ## Jobs that share slots -/

/-- Jobs that share a limited number of slots: those that wait, those in work, and those that have
completed, the earliest one first. -/
structure Pool (α : Type) where
  waiting : List α
  working : List α
  completed : List α

namespace Pool

variable {α : Type} {limit : Nat} {pool next : Pool α} {jobs order : List α}

/-- The steps of a pool.  The next job is started while there is a free slot, and of the jobs in
work any one may complete. -/
inductive Step (limit : Nat) : Pool α → Pool α → Prop where
  | start {job : α} {waiting working completed : List α} (hfree : working.length < limit) :
      Step limit ⟨job :: waiting, working, completed⟩ ⟨waiting, working ++ [job], completed⟩
  | complete {job : α} {waiting before after completed : List α} :
      Step limit ⟨waiting, before ++ job :: after, completed⟩
        ⟨waiting, before ++ after, completed ++ [job]⟩

/-- Many steps of a pool. -/
abbrev Steps (limit : Nat) : Pool α → Pool α → Prop := Relation.ReflTransGen (Step limit)

/-- Whether jobs that are started in the order of one list may complete in that of another. -/
def Completes (limit : Nat) (jobs order : List α) : Prop :=
  Steps limit ⟨jobs, [], []⟩ ⟨[], [], order⟩

/-- All jobs of a pool, in whatever state they are. -/
def all (pool : Pool α) : List α := pool.completed ++ pool.working ++ pool.waiting

/-- A step neither loses nor repeats a job. -/
theorem Step.all_perm (h : Step limit pool next) : next.all.Perm pool.all := by
  cases h with
  | @start job waiting working completed hfree =>
      simp only [all, List.append_assoc, List.singleton_append, List.Perm.refl]
  | @complete job waiting before after completed =>
      simp only [all, List.append_assoc, List.cons_append, List.nil_append]
      exact List.perm_middle.symm.append_left completed

theorem Steps.all_perm (h : Steps limit pool next) : next.all.Perm pool.all := by
  induction h with
  | refl => exact .refl _
  | tail _ step ih => exact step.all_perm.trans ih

/-- Every job completes once. -/
theorem Completes.perm (h : Completes limit jobs order) : order.Perm jobs := by
  have hall := Steps.all_perm h
  simpa [all] using hall

/-- Jobs may complete one after the other if there is a slot at all. -/
theorem steps_in_turn (hlimit : 0 < limit) (jobs completed : List α) :
    Steps limit ⟨jobs, [], completed⟩ ⟨[], [], completed ++ jobs⟩ := by
  induction jobs generalizing completed with
  | nil => rw [List.append_nil]
  | cons job rest ih =>
      have hstart : Step limit ⟨job :: rest, [], completed⟩ ⟨rest, [job], completed⟩ :=
        .start hlimit
      have hcomplete : Step limit ⟨rest, [job], completed⟩ ⟨rest, [], completed ++ [job]⟩ :=
        @Step.complete α limit job rest [] [] completed
      have hrest := ih (completed ++ [job])
      rw [List.append_assoc, List.singleton_append] at hrest
      exact .head hstart (.head hcomplete hrest)

end Pool

/-! ## Scores that arrive -/

namespace Evaluator

variable {evaluator : Evaluator} {scope : Option TargetSet} {store : Store}
  {retryCount : UInt32}

/-- Scores of different entities may be written in any order. -/
theorem writeScores_perm {fresh arrived : List (EntityId × Float32)} (h : arrived.Perm fresh)
    (hnodup : (fresh.map (·.1)).Nodup) (missing : TargetSet) :
    writeScores store arrived missing = writeScores store fresh missing := by
  rw [writeScores, writeScores, h.foldl_eq']
  intro first hfirst second hsecond store
  by_cases hsame : first = second
  · rw [hsame]
  · have hfirst := h.subset hfirst
    have hsecond := h.subset hsecond
    have hne : first.1 ≠ second.1 := fun hid =>
      hsame (List.inj_on_of_nodup_map hnodup hfirst hsecond hid)
    exact store.modify_comm hne _ _

/-- The evaluation that writes fresh scores in the order in which they arrive. -/
def evaluateArriving (evaluator : Evaluator)
    (arrive : List (EntityId × Float32) → List (EntityId × Float32)) (store : Store)
    (scope : Option TargetSet) (retryCount : UInt32) : Plan (Store × Evaluation) :=
  if store.isEmpty then .done (store, emptyEvaluation)
  else
    (evaluator.scorePlan scope store).bind fun fresh =>
      let scored := writeScores store (arrive fresh) (missingIds evaluator.thresholds store)
      (evaluator.verdict retryCount store scored).bind fun decision =>
        .done (scored, evaluator.tally store scored decision)

/-- An evaluation does not depend on the order in which its concurrent calls complete. -/
theorem evaluateArriving_eq (hkeyed : store.Keyed)
    {arrive : List (EntityId × Float32) → List (EntityId × Float32)}
    (harrive : ∀ jobs, Pool.Completes (max evaluator.maxConcurrentCalls 1) jobs (arrive jobs)) :
    evaluator.evaluateArriving arrive store scope retryCount =
      evaluator.evaluate store scope retryCount := by
  rw [evaluateArriving]
  split
  · rename_i hstore
    rw [evaluate, if_pos hstore]
    rfl
  · rename_i hstore
    rw [evaluate_of_not_isEmpty (Bool.not_eq_true _ ▸ hstore)]
    apply Plan.bind_congr
    intro events fresh hfresh
    obtain ⟨reply, _, rfl⟩ := course_scorePlan hkeyed hfresh
    have hnodup : (((scoredEntities evaluator.thresholds scope store).map fun entity =>
        (entity.id, freshScore evaluator (reply entity.id) entity)).map (·.1)).Nodup := by
      rw [List.map_map]
      exact nodup_scoredEntities hkeyed
    rw [writeScores_perm (harrive _).perm hnodup]

end Evaluator

end CodeSurvey
