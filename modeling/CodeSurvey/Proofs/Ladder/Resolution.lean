import CodeSurvey.Proofs.Ladder.Template

/-!
# Climbing the ladder

A ladder is tried tier by tier until one of them has a text that is not blank.  Each tier is tried
at most once, in its turn, and a tier that fails or takes too long has no text.  If no tier has one,
the template takes their place, so every climb ends with a summary.

## Main results

* `Tier.Behaves`: what an attempt at a tier asks for, and what it comes to.
* `Ladder.Climbed`: the tiers that are tried, and the outcome.
* `Ladder.resolution`: every climb is of this kind, and its summary is trimmed and not empty.
* `Ladder.course_standard`: when the standard ladder asks the summarizer.
-/

namespace CodeSurvey

/-! ## One tier -/

/-- Whether a tier panics. -/
def Event.tierPanics : Event → Bool
  | .answered (.summarizeSnippet ..) .panicked => true
  | .answered (.attemptTier ..) .panicked => true
  | _ => false

/-- What an attempt at a tier may ask for, and the text that it comes to.  A tier at a place of a
ladder without a text declines. -/
inductive Tier.Behaves (place : Nat) (node : StructuralNode) :
    Tier → List Event → Option String → Prop where
  | docComment : Behaves place node .docComment [] ((nonBlank node.docstring).map Text.trim)
  | template : Behaves place node .template [] (some (templateSummary node))
  | summarized (text : String) :
      Behaves place node .summarizer
        [.answered (.summarizeSnippet node.id (syntheticSnippet node)) (.ok text)] (some text)
  | unsummarized (answer : Outcome Failure String) (h : ∀ text, answer ≠ .ok text) :
      Behaves place node .summarizer
        [.answered (.summarizeSnippet node.id (syntheticSnippet node)) answer] none
  | answered (name : String) (text : Option String) :
      Behaves place node (.custom name) [.answered (.attemptTier place node) (.ok text)] text
  | unanswered (name : String) (answer : Outcome Failure (Option String))
      (h : ∀ text, answer ≠ .ok text) :
      Behaves place node (.custom name) [.answered (.attemptTier place node) answer] none

/-- Unless it panics, an attempt comes to an end. -/
theorem Tier.course_attempt {tier : Tier} {place : Nat} {node : StructuralNode}
    {calls : List Event} {result : Option (Option String)}
    (hcourse : (tier.attempt place node).Course calls result)
    (hcontained : ∀ event ∈ calls, event.tierPanics = false) :
    ∃ text, result = some text ∧ tier.Behaves place node calls text := by
  cases tier with
  | docComment =>
      obtain ⟨rfl, rfl⟩ := Plan.course_done_iff.1 hcourse
      refine ⟨_, rfl, ?_⟩
      rw [documentation_eq]
      exact .docComment
  | template =>
      obtain ⟨rfl, rfl⟩ := Plan.course_done_iff.1 hcourse
      exact ⟨_, rfl, .template⟩
  | summarizer =>
      obtain ⟨answer, rest, hrest, rfl⟩ := Plan.course_ask_iff.1 hcourse
      cases answer with
      | ok text =>
          obtain ⟨rfl, rfl⟩ := Plan.course_done_iff.1 hrest
          exact ⟨_, rfl, .summarized text⟩
      | failed error =>
          obtain ⟨rfl, rfl⟩ := Plan.course_done_iff.1 hrest
          exact ⟨_, rfl, .unsummarized _ (by simp)⟩
      | timedOut =>
          obtain ⟨rfl, rfl⟩ := Plan.course_done_iff.1 hrest
          exact ⟨_, rfl, .unsummarized _ (by simp)⟩
      | panicked => cases hcontained _ List.mem_cons_self
  | custom name =>
      obtain ⟨answer, rest, hrest, rfl⟩ := Plan.course_ask_iff.1 hcourse
      cases answer with
      | ok text =>
          obtain ⟨rfl, rfl⟩ := Plan.course_done_iff.1 hrest
          exact ⟨_, rfl, .answered name text⟩
      | failed error =>
          obtain ⟨rfl, rfl⟩ := Plan.course_done_iff.1 hrest
          exact ⟨_, rfl, .unanswered name _ (by simp)⟩
      | timedOut =>
          obtain ⟨rfl, rfl⟩ := Plan.course_done_iff.1 hrest
          exact ⟨_, rfl, .unanswered name _ (by simp)⟩
      | panicked => cases hcontained _ List.mem_cons_self

namespace Ladder

variable {ladder rest : Ladder} {node : StructuralNode} {events : List Event}

/-! ## The climb -/

/-- An attempt at a tier: its calls with their answers, and the text that it came to. -/
structure Attempt where
  tier : Tier
  calls : List Event
  text : Option String

/-- Whether the attempts are made at the tiers of a ladder in their turn, the first one at a place
of the ladder. -/
def MadeFrom (place : Nat) (node : StructuralNode) (attempts : List Attempt) : Prop :=
  ∀ (turn : Nat) (attempt : Attempt), attempts[turn]? = some attempt →
    attempt.tier.Behaves (place + turn) node attempt.calls attempt.text

/-- How a climb may end after some attempts: at a tier with a text that is not blank, or at the top
of the ladder. -/
inductive Climbed (ladder : Ladder) (node : StructuralNode) :
    List Attempt → LadderOutcome → Prop where
  | found (declined : List Attempt) (last : Attempt) (text : String) (above : Ladder)
      (tiers : ladder = declined.map (·.tier) ++ last.tier :: above)
      (declines : ∀ attempt ∈ declined, nonBlank attempt.text = none)
      (tells : nonBlank last.text = some text) :
      Climbed ladder node (declined ++ [last]) ⟨Text.trim text, last.tier.name⟩
  | exhausted (declined : List Attempt) (tiers : ladder = declined.map (·.tier))
      (declines : ∀ attempt ∈ declined, nonBlank attempt.text = none) :
      Climbed ladder node declined ⟨templateSummary node, "template"⟩

theorem Climbed.decline {attempts : List Attempt} {outcome : LadderOutcome}
    (h : Climbed rest node attempts outcome) (attempt : Attempt)
    (hdeclines : nonBlank attempt.text = none) :
    Climbed (attempt.tier :: rest) node (attempt :: attempts) outcome := by
  cases h with
  | found declined last text above tiers declines tells =>
      exact .found (attempt :: declined) last text above (by simp [tiers])
        (List.forall_mem_cons.2 ⟨hdeclines, declines⟩) tells
  | exhausted declined tiers declines =>
      exact .exhausted (attempt :: attempts) (by simp [tiers])
        (List.forall_mem_cons.2 ⟨hdeclines, declines⟩)

theorem madeFrom_cons {place : Nat} {attempt : Attempt} {attempts : List Attempt}
    (hattempt : attempt.tier.Behaves place node attempt.calls attempt.text)
    (hattempts : MadeFrom (place + 1) node attempts) :
    MadeFrom place node (attempt :: attempts) := by
  intro turn other hother
  cases turn with
  | zero =>
      cases hother
      exact hattempt
  | succ turn =>
      rw [Nat.add_comm turn, ← Nat.add_assoc]
      exact hattempts turn other hother

/-- The remaining tiers are climbed in their turn, and nothing else is asked for. -/
theorem climbed_of_course {place : Nat} {result : Option LadderOutcome}
    (hcourse : (resolveFrom node place ladder).Course events result)
    (hcontained : ∀ event ∈ events, event.tierPanics = false) :
    ∃ attempts outcome, result = some outcome ∧ Climbed ladder node attempts outcome ∧
      MadeFrom place node attempts ∧ events = attempts.flatMap (·.calls) := by
  induction ladder generalizing place events with
  | nil =>
      obtain ⟨rfl, rfl⟩ := Plan.course_done_iff.1 hcourse
      exact ⟨[], _, rfl, .exhausted [] rfl (by simp), by simp [MadeFrom], rfl⟩
  | cons tier rest ih =>
      rw [resolveFrom_cons, Plan.course_bind_iff] at hcourse
      rcases hcourse with ⟨text, calls, later, htier, hlater, rfl⟩ | ⟨hcrash, -⟩
      · obtain ⟨_, ⟨⟩, hbehaves⟩ := Tier.course_attempt htier
          fun event hevent => hcontained event (List.mem_append_left _ hevent)
        cases htells : nonBlank text with
        | some told =>
            rw [htells] at hlater
            obtain ⟨rfl, rfl⟩ := Plan.course_done_iff.1 hlater
            refine ⟨[⟨tier, calls, text⟩], _, rfl,
              .found [] ⟨tier, calls, text⟩ told rest rfl (by simp) htells,
              madeFrom_cons hbehaves (by simp [MadeFrom]), by simp⟩
        | none =>
            rw [htells] at hlater
            obtain ⟨attempts, outcome, rfl, hclimbed, hmade, rfl⟩ := ih hlater
              fun event hevent => hcontained event (List.mem_append_right _ hevent)
            exact ⟨⟨tier, calls, text⟩ :: attempts, outcome, rfl,
              hclimbed.decline ⟨tier, calls, text⟩ htells, madeFrom_cons hbehaves hmade, by simp⟩
      · obtain ⟨_, ⟨⟩, -⟩ := Tier.course_attempt hcrash hcontained

/-! ## The summary -/

/-- Whether a text is neither empty nor begins or ends with a blank. -/
structure IsTrimmed (text : String) : Prop where
  ne_empty : text ≠ ""
  head : ∀ c ∈ text.toList.head?, Text.isBlank c = false
  last : ∀ c ∈ text.toList.getLast?, Text.isBlank c = false

theorem isTrimmed_trim {given : Option String} {text : String} (h : nonBlank given = some text) :
    IsTrimmed (Text.trim text) := by
  refine ⟨?_, Text.isBlank_of_mem_head?_trim text, Text.isBlank_of_mem_getLast?_trim text⟩
  rw [← String.isEmpty_eq_false_iff, Text.isEmpty_trim]
  exact (nonBlank_eq_some_iff.1 h).2

theorem Climbed.isTrimmed {attempts : List Attempt} {outcome : LadderOutcome}
    (h : Climbed ladder node attempts outcome) : IsTrimmed outcome.text := by
  cases h with
  | found declined last text above tiers declines tells => exact isTrimmed_trim tells
  | exhausted declined tiers declines =>
      have htrimmed := isTrimmed_trim (nonBlank_templateSummary node)
      rwa [trim_templateSummary] at htrimmed

/-! ## The standard ladder -/

/-- The standard ladder asks the summarizer once, about the synthetic snippet, if there is no
documentation comment or a blank one, and asks for nothing otherwise. -/
theorem course_standard {result : Option LadderOutcome}
    (hcourse : (standard.resolve node).Course events result)
    (hcontained : ∀ event ∈ events, event.tierPanics = false) :
    (nonBlank node.docstring = none → ∃ answer,
      events = [.answered (.summarizeSnippet node.id (syntheticSnippet node)) answer]) ∧
    (nonBlank node.docstring ≠ none → events = []) := by
  rw [resolve, standard] at hcourse
  cases hdoc : nonBlank node.docstring with
  | some text =>
      rw [resolveFrom_docComment_of_some hdoc] at hcourse
      exact ⟨by simp, fun _ => (Plan.course_done_iff.1 hcourse).1⟩
  | none =>
      refine ⟨fun _ => ?_, fun h => absurd rfl h⟩
      simp only [resolveFrom_docComment_of_none hdoc, resolveFrom_cons node 1,
        resolveFrom_template] at hcourse
      rcases Plan.course_bind_iff.1 hcourse with
        ⟨text, calls, later, hcalls, hlater, rfl⟩ | ⟨hcrash, -⟩
      · obtain ⟨_, ⟨⟩, hbehaves⟩ := Tier.course_attempt hcalls
          fun event hevent => hcontained event (List.mem_append_left _ hevent)
        have hnothing : later = [] := by
          split at hlater <;> exact (Plan.course_done_iff.1 hlater).1
        rw [hnothing, List.append_nil]
        cases hbehaves <;> exact ⟨_, rfl⟩
      · obtain ⟨_, ⟨⟩, -⟩ := Tier.course_attempt hcrash hcontained

/-- Unless a tier panics, a climb comes to the trimmed text and the name of the first tier that has
a text which is not blank, and to the template if there is none.  The tiers up to that one are tried
once each, in their turn, and nothing else is asked for.  The summary is never empty, and neither
begins nor ends with a blank.  The standard ladder asks the summarizer once, about the synthetic
snippet, exactly if there is no documentation comment or a blank one. -/
theorem resolution {result : Option LadderOutcome}
    (hcourse : (ladder.resolve node).Course events result)
    (hcontained : ∀ event ∈ events, event.tierPanics = false) :
    ∃ attempts outcome, result = some outcome ∧ Climbed ladder node attempts outcome ∧
      MadeFrom 0 node attempts ∧ events = attempts.flatMap (·.calls) ∧ IsTrimmed outcome.text ∧
      (ladder = standard →
        (nonBlank node.docstring = none → ∃ answer,
          events = [.answered (.summarizeSnippet node.id (syntheticSnippet node)) answer]) ∧
        (nonBlank node.docstring ≠ none → events = [])) := by
  obtain ⟨attempts, outcome, rfl, hclimbed, hmade, hevents⟩ := climbed_of_course hcourse hcontained
  refine ⟨attempts, outcome, rfl, hclimbed, hmade, hevents, hclimbed.isTrimmed, ?_⟩
  rintro rfl
  exact course_standard hcourse hcontained

end Ladder

/-! ## A ladder with blank rungs -/

namespace BlankRungs

/-- The documentation comment is blank. -/
def node : StructuralNode := { StructuralNode.new ⟨"a.py::add"⟩ .function with
  docstring := some " \n"
  args := ["x", "y"] }

def ladder : Ladder := [.custom "cache", .docComment, .summarizer, .custom "archive"]

/-- What is cached is blank, too. -/
def host : Host Unit where
  cancelled _ := false
  answer
    | .attemptTier _ _, state => (.ok (some "\t"), state)
    | .summarizeSnippet _ code, state => (.ok (" Sums up in: " ++ code ++ "\n"), state)
    | request, state => (request.anyAnswer, state)

def plan : Plan LadderOutcome := ladder.resolve node

theorem tierPanics_eq_false : ∀ event ∈ plan.events host (), event.tierPanics = false := by
  apply Plan.forall_mem_events
  · intro cancelled
    rfl
  · intro request state
    cases request <;> rfl

end BlankRungs

namespace Ladder

/-- The cache and the documentation comment are passed over, and the archive is not asked. -/
theorem resolution_blank_rungs :
    ∃ attempts, Climbed BlankRungs.ladder BlankRungs.node attempts
        ⟨"Sums up in: def add(x, y): pass", "summarizer"⟩ ∧
      MadeFrom 0 BlankRungs.node attempts ∧
      BlankRungs.plan.events BlankRungs.host () = attempts.flatMap (·.calls) ∧
      (BlankRungs.plan.events BlankRungs.host ()).length = 2 := by
  have hresult : (BlankRungs.plan.run BlankRungs.host ()).1 =
      some ⟨"Sums up in: def add(x, y): pass", "summarizer"⟩ := by
    decide +kernel
  obtain ⟨attempts, outcome, houtcome, hclimbed, hmade, hevents, -⟩ := resolution
    (Plan.course_run BlankRungs.host BlankRungs.plan ()) BlankRungs.tierPanics_eq_false
  cases hresult.symm.trans houtcome
  exact ⟨attempts, hclimbed, hmade, hevents, by decide +kernel⟩

end Ladder
end CodeSurvey
