import CodeSurvey.Proofs.Binary32.Number
import CodeSurvey.Proofs.Gate.Courses

/-!
# Consulting the judge

A strategy may consult the judge about aggregates in the borderline band.  Two calls lie on the way
to a verdict, and both may fail or take too long; the answer may also be anything.  Whatever goes
wrong, the thresholds decide in place of the judge.

## Main results

* `Strategy.Consultation`: what may come of consulting the judge.
* `Strategy.course_decide_consult`: when the judge is consulted, and what becomes of its verdict.
* `Strategy.consultation`: what is called, and where the decision comes from, for every aggregate
  and all thresholds, be they numbers or not.
-/

namespace CodeSurvey

namespace Event

/-- Whether the judge is asked for a verdict. -/
def asksJudge : Event → Bool
  | .answered (.askJudge ..) _ => true
  | _ => false

/-- What the judge has answered in time. -/
def judgeAnswer? : Event → Option String
  | .answered (.askJudge ..) (.ok content) => some content
  | _ => none

/-- The verdict that can be read from an answer in time. -/
def verdictIn (events : List Event) : Option Decision :=
  (events.findSome? judgeAnswer?).bind Judge.verdict?

end Event

namespace Strategy

variable {context : DecisionContext} {events : List Event}

/-! ## The consultation -/

/-- What may come of consulting the judge: it is not there, it gives no answer in time, or it gives
an answer, from which a verdict may be read. -/
inductive Consultation (context : DecisionContext) : List Event → Option Decision → Prop where
  | absent (available : Outcome Failure Bool) (h : available ≠ .ok true) :
      Consultation context [.answered .judgeAvailable available] none
  | silent (answer : Outcome String String) (h : ∀ content, answer ≠ .ok content) :
      Consultation context [.answered .judgeAvailable (.ok true),
        .answered (.askJudge (judgeMessages context) judgeGeneration) answer] none
  | answered (content : String) :
      Consultation context [.answered .judgeAvailable (.ok true),
        .answered (.askJudge (judgeMessages context) judgeGeneration) (.ok content)]
        (Judge.verdict? content)

/-- Unless a call panics the consultation ends, with or without a verdict. -/
theorem course_consultJudge {result : Option (Option Decision)}
    (hcourse : (consultJudge context).Course events result)
    (hcontained : ∀ event ∈ events, event.escapes = false) :
    ∃ verdict, result = some verdict ∧ Consultation context events verdict := by
  simp only [consultJudge, Plan.request, Plan.bind_eq, Plan.ask_bind, Plan.done_bind,
    Plan.course_ask_iff] at hcourse
  obtain ⟨available, rest, hrest, rfl⟩ := hcourse
  have havailable := hcontained _ List.mem_cons_self
  rcases available with (_ | _) | _ | _ | _
  · obtain ⟨rfl, rfl⟩ := Plan.course_done_iff.1 hrest
    exact ⟨none, rfl, .absent _ (by simp)⟩
  · obtain ⟨answer, last, hlast, rfl⟩ := Plan.course_ask_iff.1 hrest
    have hanswer := hcontained
      (.answered (.askJudge (judgeMessages context) judgeGeneration) answer) (by simp)
    cases answer with
    | ok content =>
        obtain ⟨rfl, rfl⟩ := Plan.course_done_iff.1 hlast
        exact ⟨_, rfl, .answered content⟩
    | failed error =>
        obtain ⟨rfl, rfl⟩ := Plan.course_done_iff.1 hlast
        exact ⟨none, rfl, .silent _ (by simp)⟩
    | timedOut =>
        obtain ⟨rfl, rfl⟩ := Plan.course_done_iff.1 hlast
        exact ⟨none, rfl, .silent _ (by simp)⟩
    | panicked => cases hanswer
  · obtain ⟨rfl, rfl⟩ := Plan.course_done_iff.1 hrest
    exact ⟨none, rfl, .absent _ (by simp)⟩
  · obtain ⟨rfl, rfl⟩ := Plan.course_done_iff.1 hrest
    exact ⟨none, rfl, .absent _ (by simp)⟩
  · cases havailable

namespace Consultation

variable {verdict : Option Decision}

/-- Whoever consults the judge asks at least whether there is one. -/
theorem ne_nil (h : Consultation context events verdict) : events ≠ [] := by
  cases h <;> exact List.cons_ne_nil _ _

/-- In a consultation the judge is asked once at most. -/
theorem countP_asksJudge (h : Consultation context events verdict) :
    events.countP Event.asksJudge ≤ 1 := by
  cases h <;> simp [Event.asksJudge]

/-- The judge is asked only after it has said that it is there. -/
theorem available (h : Consultation context events verdict) {before after : List Event}
    {event : Event} (hevents : events = before ++ event :: after)
    (hasks : event.asksJudge = true) : before = [.answered .judgeAvailable (.ok true)] := by
  cases before with
  | nil =>
      rw [List.nil_append] at hevents
      cases h <;> cases hevents <;> cases hasks
  | cons first rest =>
      cases rest with
      | nil =>
          rw [List.cons_append, List.nil_append] at hevents
          cases h <;> cases hevents <;> rfl
      | cons second more =>
          -- Two events and one more are more than a consultation has.
          cases h <;> simp at hevents

/-- The judge is asked with the messages of the context, and in no other way. -/
theorem asked_of_mem {messages : List Judge.Message} {generation : Judge.Generation}
    {answer said : Outcome String String}
    (hmem : .answered (.askJudge messages generation) answer ∈
      [Event.answered .judgeAvailable (.ok true),
        .answered (.askJudge (judgeMessages context) judgeGeneration) said]) :
    messages = judgeMessages context ∧ generation = judgeGeneration := by
  simp only [List.mem_cons, List.not_mem_nil, or_false, reduceCtorEq, false_and, false_or,
    Event.answered.injEq, Request.askJudge.injEq] at hmem
  exact hmem.1

/-- The judge is asked about the case. -/
theorem asked (h : Consultation context events verdict) {messages : List Judge.Message}
    {generation : Judge.Generation} {answer : Outcome String String}
    (hmem : .answered (.askJudge messages generation) answer ∈ events) :
    messages = judgeMessages context ∧ generation = judgeGeneration := by
  cases h with
  | absent available h => simp at hmem
  | silent answer h => exact asked_of_mem hmem
  | answered content => exact asked_of_mem hmem

/-- The verdict is the one that can be read from an answer in time. -/
theorem verdict_eq (h : Consultation context events verdict) :
    verdict = Event.verdictIn events := by
  cases h with
  | absent available h => rfl
  | silent answer h =>
      cases answer with
      | ok content => exact absurd rfl (h content)
      | _ => rfl
  | answered content => rfl

/-- No consultation ends with a selective retry. -/
theorem verdict_ne (h : Consultation context events verdict) : verdict ≠ some .retrySubset := by
  cases h with
  | absent available h => exact nofun
  | silent answer h => exact nofun
  | answered content => exact Judge.verdict?_ne_retrySubset content

end Consultation

/-! ## The decision -/

/-- A case is borderline if its aggregate lies between the two thresholds. -/
theorem isBorderline_iff :
    context.thresholds.isBorderline context.aggregate = true ↔
      context.thresholds.systemic ≤ context.aggregate ∧
        context.aggregate < context.thresholds.borderlineUpper := by
  simp only [Thresholds.isBorderline, Bool.and_eq_true, decide_eq_true_eq, ge_iff_le]

/-- An aggregate that is no systemic failure does not have everything retried. -/
theorem classify_ne_retryAll (h : context.thresholds.systemic ≤ context.aggregate) :
    context.classify ≠ .retryAll := by
  rw [DecisionContext.classify, if_neg (Binary32.not_lt_of_le h)]
  split <;> decide

/-- Unless a call panics a decision is come to.  Outside the band it is that of the thresholds, and
nothing is called.  Inside the band the judge is consulted, and the thresholds decide if there is no
verdict. -/
theorem course_decide_consult {result : Option Decision}
    (hcourse : (Strategy.consult.decide context).Course events result)
    (hcontained : ∀ event ∈ events, event.escapes = false) :
    (context.thresholds.isBorderline context.aggregate = false ∧ events = [] ∧
        result = some context.classify) ∨
      (context.thresholds.isBorderline context.aggregate = true ∧
        ∃ verdict, Consultation context events verdict ∧
          result = some (verdict.getD context.classify)) := by
  rw [decide] at hcourse
  cases hband : context.thresholds.isBorderline context.aggregate with
  | false =>
      rw [hband, if_neg Bool.false_ne_true, Plan.pure_eq_done, Plan.course_done_iff] at hcourse
      exact .inl ⟨rfl, hcourse⟩
  | true =>
      rw [hband, if_pos rfl, Plan.bind_eq, Plan.course_bind_iff] at hcourse
      refine .inr ⟨rfl, ?_⟩
      rcases hcourse with ⟨verdict, asked, rest, hasked, hrest, rfl⟩ | ⟨hcrash, -⟩
      · obtain ⟨_, ⟨⟩, hconsultation⟩ := course_consultJudge hasked
          fun event hevent => hcontained event (List.mem_append_left _ hevent)
        cases verdict <;> obtain ⟨rfl, rfl⟩ := Plan.course_done_iff.1 hrest <;>
          exact ⟨_, by rwa [List.append_nil], rfl⟩
      · obtain ⟨_, ⟨⟩, -⟩ := course_consultJudge hcrash hcontained

/-- What is called on the way to a decision, and where the decision comes from.

* `inBand`: something is called exactly in the borderline band.
* `once`: the judge is asked at most once.
* `available`: the judge is asked only after it has said in time that it is there.
* `asked`: it is asked about the case, and in the same way every time.
* `ofVerdict`: a verdict in time is the decision, and never a selective retry.
* `ofThresholds`: without a verdict the thresholds decide, and in the band they do not have
  everything retried. -/
structure Consulted (context : DecisionContext) (events : List Event) (decision : Decision) :
    Prop where
  inBand : events ≠ [] ↔ context.thresholds.systemic ≤ context.aggregate ∧
    context.aggregate < context.thresholds.borderlineUpper
  once : events.countP Event.asksJudge ≤ 1
  available : ∀ before event after, events = before ++ event :: after →
    event.asksJudge = true → before = [.answered .judgeAvailable (.ok true)]
  asked : ∀ messages generation answer, .answered (.askJudge messages generation) answer ∈ events →
    messages = judgeMessages context ∧ generation = judgeGeneration
  ofVerdict : ∀ verdict, Event.verdictIn events = some verdict →
    decision = verdict ∧ decision ≠ .retrySubset
  ofThresholds : Event.verdictIn events = none →
    decision = context.classify ∧ (events ≠ [] → decision ≠ .retryAll)

/-- Unless a call panics the strategist comes to a decision, for every aggregate and all thresholds,
be they numbers or not, and whatever is answered. -/
theorem consultation {result : Option Decision}
    (hcourse : (Strategy.consult.decide context).Course events result)
    (hcontained : ∀ event ∈ events, event.escapes = false) :
    ∃ decision, result = some decision ∧ Consulted context events decision := by
  rcases course_decide_consult hcourse hcontained with
    ⟨hband, rfl, rfl⟩ | ⟨hband, verdict, hconsultation, rfl⟩
  · refine ⟨_, rfl, ?_, by simp, by simp, by simp, ?_, ?_⟩
    · rw [← isBorderline_iff, hband]
      exact iff_of_false (fun hne => hne rfl) Bool.false_ne_true
    · exact nofun
    · exact fun _ => ⟨rfl, fun hne => absurd rfl hne⟩
  · have hinBand := isBorderline_iff.1 hband
    refine ⟨_, rfl, iff_of_true hconsultation.ne_nil hinBand, hconsultation.countP_asksJudge,
      fun before event after => hconsultation.available,
      fun messages generation answer => hconsultation.asked, ?_, ?_⟩
    · intro said hsaid
      rw [← hconsultation.verdict_eq] at hsaid
      subst hsaid
      exact ⟨rfl, fun hsubset => hconsultation.verdict_ne (congrArg some hsubset)⟩
    · intro hnone
      rw [← hconsultation.verdict_eq] at hnone
      rw [hnone, Option.getD_none]
      exact ⟨rfl, fun _ => classify_ne_retryAll hinBand.1⟩

end Strategy

/-! ## A case for the judge -/

namespace BorderlineCase

/-- An aggregate in the band; one score is low. -/
def context : DecisionContext where
  aggregate := 0.6
  low := OrderedSet.ofElements [⟨"a.py"⟩]
  entityCount := 2
  retryCount := 0
  thresholds := .default

/-- The judge is there, and is for doing everything again. -/
def host : Host Unit where
  cancelled _ := false
  answer
    | .judgeAvailable, state => (.ok true, state)
    | .askJudge .., state => (.ok "Well: \x7b\"decision\": \"Retry-All\"\x7d", state)
    | request, state => (request.anyAnswer, state)

def plan : Plan Decision := Strategy.consult.decide context

/-- No panic escapes from the consultation. -/
theorem escapes_eq_false : ∀ event ∈ plan.events host (), event.escapes = false := by
  apply Plan.forall_mem_events
  · intro cancelled
    rfl
  · intro request state
    cases request with
    | embedTexts texts limit =>
        simp [Event.escapes, host, Request.anyAnswer, Evaluator.panicked]
    | _ => rfl

end BorderlineCase

namespace Strategy

/-- The verdict is the decision, and not what the thresholds say. -/
theorem consultation_borderline_case :
    (BorderlineCase.plan.run BorderlineCase.host ()).1 = some .retryAll ∧
      Consulted BorderlineCase.context (BorderlineCase.plan.events BorderlineCase.host ())
        .retryAll ∧
      BorderlineCase.context.classify = .retrySubset := by
  have hdecision : (BorderlineCase.plan.run BorderlineCase.host ()).1 = some .retryAll := by
    decide +kernel
  obtain ⟨decision, hresult, hconsulted⟩ := consultation
    (Plan.course_run BorderlineCase.host BorderlineCase.plan ()) BorderlineCase.escapes_eq_false
  cases hdecision.symm.trans hresult
  exact ⟨hdecision, hconsulted, by decide +kernel⟩

end Strategy
end CodeSurvey
