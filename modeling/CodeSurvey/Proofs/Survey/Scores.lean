import CodeSurvey.Proofs.Survey.Rounds

/-!
# Scores are never stale

A selective pass scores its targets alone.  If the embedding of a text depends on the text only,
the scores that it keeps are nevertheless those which it would find: whatever a fusion changes is
in scope, and is scored in the same pass.

## Main results

* `Evaluator.fullScore`: the score of an entity, told from the entity alone.
* `Survey.scores_not_stale`: after every evaluation each stored entity has this score, and an
  evaluation of the whole store changes nothing.
-/

namespace CodeSurvey

/-- Whether texts are embedded as a function says.  Other events do not matter. -/
def Event.EmbedsBy (f : String → Outcome Failure Vector32) : Event → Prop
  | .answered (.embedTexts texts _) answer =>
      ∀ place text, texts[place]? = some text → answer place = f text
  | _ => True

namespace Evaluator

variable {evaluator : Evaluator} {f : String → Outcome Failure Vector32}
  {scope : Option TargetSet} {store : Store} {events : List Event}
  {reply : EntityId → Outcome Failure Vector32} {entity : Entity}

/-- The score of an entity, if texts are embedded by a function: zero without a summary, neutral if
one of the two vectors is unavailable, and otherwise their similarity, clamped to the unit
interval. -/
def fullScore (evaluator : Evaluator) (f : String → Outcome Failure Vector32) (entity : Entity) :
    Float32 :=
  if evaluator.thresholds.isMissing entity.summary then 0
  else if entity.embedding = [] then evaluator.thresholds.neutral
  else
    match f entity.summary with
    | .ok [] => evaluator.thresholds.neutral
    | .ok vector => clampUnit (evaluator.similarity vector entity.embedding)
    | .failed _ | .timedOut | .panicked => evaluator.thresholds.neutral

/-- The store in which every entity has its full score. -/
def Settled (evaluator : Evaluator) (f : String → Outcome Failure Vector32) (store : Store) :
    Prop :=
  ∀ id entity, store.get? id = some entity → entity.score = evaluator.fullScore f entity

/-- Entities whose summary is embedded are replied to by the function. -/
theorem reply_eq (hkeyed : store.Keyed) (hreplied : Replied evaluator scope store events reply)
    (hevents : ∀ event ∈ events, event.EmbedsBy f) {id : EntityId}
    (hentity : store.get? id = some entity)
    (hpresent : evaluator.thresholds.isMissing entity.summary = false)
    (hscope : inScope scope id = true) (hembedding : entity.hasEmbedding = true) :
    reply id = f entity.summary := by
  have hid := hkeyed id entity hentity
  have hmem : entity ∈ embedded evaluator scope store := by
    rw [embedded, scoredEntities, List.mem_filter, List.mem_filter, hkeyed.mem_entities_iff, hid]
    simp [hentity, hpresent, hscope, hembedding]
  obtain ⟨answer, hanswer, hplaces⟩ := hreplied (List.ne_nil_of_mem hmem)
  obtain ⟨place, hplace⟩ := List.mem_iff_getElem?.1 hmem
  have htext :
      ((embedded evaluator scope store).map (·.summary))[place]? = some entity.summary := by
    rw [List.getElem?_map, hplace]
    rfl
  calc
    reply id = reply entity.id := by rw [hid]
    _ = answer place := hplaces place entity hplace
    _ = f entity.summary := hevents _ hanswer place entity.summary htext

/-- The fresh score of a present summary is the full score. -/
theorem freshScore_eq_fullScore {answer : Outcome Failure Vector32}
    (hpresent : evaluator.thresholds.isMissing entity.summary = false)
    (hanswer : entity.hasEmbedding = true → answer = f entity.summary) :
    evaluator.freshScore answer entity = evaluator.fullScore f entity := by
  rw [freshScore, fullScore, hpresent]
  cases hembedding : entity.hasEmbedding with
  | false =>
      have hempty : entity.embedding = [] := by
        simpa [Entity.hasEmbedding] using hembedding
      simp [hempty]
  | true =>
      have hnonempty : entity.embedding ≠ [] := entity.hasEmbedding_iff.1 hembedding
      rw [hanswer hembedding]
      simp only [if_true, Bool.false_eq_true, if_false, hnonempty]
      rcases f entity.summary with (_ | ⟨x, xs⟩) | _ | _ | _ <;> simp [score]

theorem withScore_self (entity : Entity) : withScore entity.score entity = entity :=
  rfl

theorem fullScore_withScore (x : Float32) (entity : Entity) :
    evaluator.fullScore f (withScore x entity) = evaluator.fullScore f entity := by
  rfl

/-- A grading by the function gives an entity its full score if the entity is in scope, if it is
missing, or if it had that score before. -/
theorem regraded_eq (hkeyed : store.Keyed) (hreplied : Replied evaluator scope store events reply)
    (hevents : ∀ event ∈ events, event.EmbedsBy f) {id : EntityId}
    (hentity : store.get? id = some entity)
    (hsettled : inScope scope id = false → entity.score = evaluator.fullScore f entity) :
    evaluator.regraded scope reply entity =
      withScore (evaluator.fullScore f entity) entity := by
  have hid := hkeyed id entity hentity
  rw [regraded]
  cases hmissing : evaluator.thresholds.isMissing entity.summary with
  | true =>
      rw [if_pos rfl, fullScore, if_pos hmissing]
  | false =>
      rw [if_neg (by simp), hid]
      cases hscope : inScope scope id with
      | true =>
          have hfresh : evaluator.freshScore (reply id) entity = evaluator.fullScore f entity :=
            freshScore_eq_fullScore hmissing
              (reply_eq hkeyed hreplied hevents hentity hmissing hscope)
          rw [if_pos rfl, hfresh]
      | false => rw [if_neg (by simp), ← hsettled hscope, withScore_self]

/-- An evaluation of a whole store that is settled already changes no entity. -/
theorem get?_of_settled (hkeyed : store.Keyed) (hsettled : evaluator.Settled f store)
    {retryCount : UInt32} {scored : Store} {evaluation : Evaluation}
    (hevents : ∀ event ∈ events, event.EmbedsBy f)
    (h : (evaluator.evaluate store none retryCount).Course events (some (scored, evaluation)))
    (id : EntityId) : scored.get? id = store.get? id := by
  obtain ⟨reply, hreplied, rfl, _⟩ := course_evaluate hkeyed h
  rw [get?_scoredStore hkeyed]
  cases hentity : store.get? id with
  | none => rfl
  | some entity =>
      have hsame := hsettled id entity hentity
      rw [Option.map_some, regraded_eq hkeyed hreplied hevents hentity fun _ => hsame, ← hsame,
        withScore_self]

end Evaluator

namespace Survey

variable {setup : Setup} {snapshot : Snapshot} {run : Run} {progress : Progress}
  {events : List Event} {f : String → Outcome Failure Vector32}

/-- An evaluation settles the store if the store was settled before the pass: what the fusion made
anew is in scope. -/
theorem Finds.settled {found : Findings} (h : Finds setup snapshot progress events found)
    (hkeyed : progress.store.Keyed) (hsettled : setup.evaluator.Settled f progress.store)
    (hevents : ∀ event ∈ events, event.EmbedsBy f) :
    setup.evaluator.Settled f found.scored := by
  obtain ⟨reply, hgraded⟩ := h.graded hkeyed
  intro id entity hentity
  rw [hgraded.lookup] at hentity
  obtain ⟨fused, hfused, rfl⟩ := Option.map_eq_some_iff.1 hentity
  -- Out of scope nothing is scored again, but there the fusion has kept the entity as well.
  have hbefore : inScope progress.run.targets id = false →
      fused.score = setup.evaluator.fullScore f fused := by
    intro hscope
    have hcovers : ¬Fusion.Covers (inputs setup snapshot progress found.replies)
        progress.run.targets id := by
      intro hcovers
      rw [hcovers.inScope] at hscope
      cases hscope
    rw [merged, Fusion.get?_merge_of_not_covers h.steps hcovers] at hfused
    cases htargets : progress.run.targets with
    | none =>
        rw [htargets] at hscope
        cases hscope
    | some targets =>
        rw [htargets, Fusion.base_some] at hfused
        exact hsettled id fused hfused
  rw [Evaluator.regraded_eq (merged_keyed hkeyed _ _) hgraded.replied hevents hfused hbefore,
    Evaluator.fullScore_withScore, Evaluator.withScore]

/-- Before every pass the store is settled. -/
theorem Reaches.settled {rounds : List Round} (h : Reaches setup snapshot run rounds progress)
    (hevents : ∀ event ∈ Round.eventsOf rounds, event.EmbedsBy f) :
    setup.evaluator.Settled f progress.store := by
  induction h with
  | start entries =>
      intro id entity hentity
      cases hentity
  | again earlier round ih =>
      simp only [Round.eventsOf, List.flatMap_append, List.mem_append] at hevents ih
      cases passCourse round with
      | again hfound hopen hnext hreports =>
          refine hfound.settled earlier.keyed (ih fun event hmem => hevents event (.inl hmem)) ?_
          intro event hmem
          exact hevents event (.inr (by simpa using hmem))

/-- After every evaluation each stored entity has its full score, if the embedding of a text has
depended on the text only; and an evaluation of the whole store would change no entity. -/
theorem scores_not_stale {rounds : List Round} {ending : PassEnd}
    (hreaches : Reaches setup snapshot run rounds progress)
    (hpass : (pass setup snapshot progress).Course events (some ending))
    (hevaluated : ending.isEvaluated = true)
    (hevents : ∀ event ∈ Round.eventsOf rounds ++ events, event.EmbedsBy f) :
    (∀ id entity, ending.reached.store.get? id = some entity →
      entity.score = setup.evaluator.fullScore f entity) ∧
      ∀ events retryCount scored evaluation, (∀ event ∈ events, event.EmbedsBy f) →
        (setup.evaluator.evaluate ending.reached.store none retryCount).Course events
          (some (scored, evaluation)) →
        ∀ id, scored.get? id = ending.reached.store.get? id := by
  have hkeyed : progress.store.Keyed := hreaches.keyed
  have hbefore : setup.evaluator.Settled f progress.store :=
    hreaches.settled fun event hmem => hevents event (List.mem_append_left _ hmem)
  have hpassEvents : ∀ event ∈ events, event.EmbedsBy f :=
    fun event hmem => hevents event (List.mem_append_right _ hmem)
  have hafter : setup.evaluator.Settled f ending.reached.store ∧ ending.reached.store.Keyed := by
    cases passCourse hpass with
    | stopped hhalfway hreports => cases hevaluated
    | accepted hfound hsettle hreports =>
        exact ⟨hfound.settled hkeyed hbefore hpassEvents, hfound.keyed hkeyed⟩
    | again hfound hopen hnext hreports =>
        exact ⟨hfound.settled hkeyed hbefore hpassEvents, hfound.keyed hkeyed⟩
  refine ⟨hafter.1, ?_⟩
  intro later retryCount scored evaluation hlater hevaluate
  exact Evaluator.get?_of_settled hafter.2 hafter.1 hlater hevaluate

/-- After the second pass over two files the score of the first one is what a new scoring would
find, although only the second one is scored. -/
theorem scores_not_stale_two_files :
    TwoFiles.ending.reached.store.contains TwoFiles.a = true ∧
      ∀ id entity, TwoFiles.ending.reached.store.get? id = some entity →
        entity.score = TwoFiles.setup.evaluator.fullScore (fun _ => .ok [1]) entity := by
  have hevents : ∀ plan : Plan PassEnd, ∀ analyses, ∀ event ∈ plan.events TwoFiles.host analyses,
      event.EmbedsBy fun _ => .ok [1] := by
    intro plan analyses
    apply Plan.forall_mem_events
    · intro cancelled
      trivial
    · intro request analyses
      cases request with
      | embedTexts texts limit =>
          intro place text _
          rfl
      | _ => trivial
  refine ⟨by decide +kernel, (scores_not_stale TwoFiles.reaches_second TwoFiles.course_second
    (by decide +kernel) ?_).1⟩
  intro event hmem
  simp only [Round.eventsOf, List.flatMap_cons, List.flatMap_nil, List.append_nil,
    List.mem_append] at hmem
  rcases hmem with hmem | hmem
  · exact hevents _ _ event hmem
  · exact hevents _ _ event hmem

end Survey
end CodeSurvey
