import CodeSurvey.Capability.Plan

/-!
# Courses of a plan

A plan is a tree, and each way through it is a course: the looks at the cancellation and the
answered requests in their order, and the value at the end.  What holds of all courses holds
whatever the outside answers and whenever cancellation is demanded; the run with a host is one
course among them.

## Main results

* `Plan.course_bind_iff`: a course of a continued plan is a course of the first plan, followed by
  one of its continuation, unless the first plan crashes.
* `Plan.course_run`: the run of a plan with a host is a course of the plan.
* `Plan.bind_congr`: a continuation matters only at the values that the first plan can have.
-/

namespace CodeSurvey

/-- What a plan meets on its way: a look whether cancellation has been demanded, or the answer to
a request. -/
inductive Event where
  | looked (cancelled : Bool)
  | answered (request : Request) (answer : request.Answer)

namespace Event

/-- The observer is told of a phase. -/
abbrev entered (phase : Phase) (run : Run) : Event := .answered (.phase phase run) ()

/-- The observer is told of an evaluation. -/
abbrev told (evaluation : Evaluation) : Event := .answered (.evaluated evaluation) ()

/-- Whether the observer is told something. -/
def isReport : Event → Bool
  | .answered (.phase ..) _ => true
  | .answered (.evaluated _) _ => true
  | _ => false

/-- Whether a call has been answered, and not a report. -/
def isCall : Event → Bool
  | .looked _ => false
  | event => !event.isReport

/-- No call is a report. -/
theorem isReport_eq_false_of_isCall {event : Event} (h : event.isCall = true) :
    event.isReport = false := by
  cases event with
  | looked cancelled => rfl
  | answered request answer => simpa [isCall] using h

/-- What the observer is told, in order. -/
def reports (events : List Event) : List Event := events.filter isReport

section Reports

variable (first events : List Event)

@[simp]
theorem reports_nil : reports [] = [] :=
  rfl

@[simp]
theorem reports_append : reports (first ++ events) = reports first ++ reports events :=
  List.filter_append ..

@[simp]
theorem reports_looked_cons (cancelled : Bool) :
    reports (.looked cancelled :: events) = reports events :=
  rfl

@[simp]
theorem reports_entered_cons (phase : Phase) (run : Run) :
    reports (entered phase run :: events) = entered phase run :: reports events :=
  rfl

@[simp]
theorem reports_told_cons (evaluation : Evaluation) :
    reports (told evaluation :: events) = told evaluation :: reports events :=
  rfl

variable {events} in
/-- Nothing is reported where only calls are answered. -/
theorem reports_eq_nil_of_isCall (h : ∀ event ∈ events, event.isCall = true) :
    reports events = [] := by
  rw [reports, List.filter_eq_nil_iff]
  intro event hevent
  simp [isReport_eq_false_of_isCall (h event hevent)]

end Reports

end Event

/-- Some answer to a request. -/
def Request.anyAnswer : (request : Request) → request.Answer
  | .phase .. | .evaluated .. => ()
  | .materialize .. | .summarizeSnippet .. | .attemptTier .. => .timedOut
  | .judgeAvailable | .askJudge .. | .postProcess .. => .timedOut
  | .tree .. => none
  | .analyze .. => ⟨.timedOut, .timedOut, .timedOut⟩
  | .embedTexts .. => fun _ => .timedOut
  | .decide .. => .accept

namespace Plan

variable {α β σ : Type}

/-- The courses of a plan, with the events on the way and the value at the end.  A crash has no
value. -/
inductive Course : Plan α → List Event → Option α → Prop where
  | done (value : α) : Course (.done value) [] (some value)
  | crash : Course .crash [] none
  | poll {next : Bool → Plan α} {events : List Event} {result : Option α} (cancelled : Bool)
      (rest : Course (next cancelled) events result) :
      Course (.poll next) (.looked cancelled :: events) result
  | ask {request : Request} {next : request.Answer → Plan α} {events : List Event}
      {result : Option α} (answer : request.Answer) (rest : Course (next answer) events result) :
      Course (.ask request next) (.answered request answer :: events) result

/-! ## Courses by the form of the plan -/

section Form

variable {events : List Event}

/-- A plan that is done comes to its value at once. -/
@[simp]
theorem course_done_iff {value : α} {result : Option α} :
    (Plan.done value).Course events result ↔ events = [] ∧ result = some value := by
  constructor
  · intro h
    cases h
    exact ⟨rfl, rfl⟩
  · rintro ⟨rfl, rfl⟩
    exact .done value

/-- A crash comes to no value, and nothing happens before it. -/
@[simp]
theorem course_crash_iff {result : Option α} :
    (Plan.crash : Plan α).Course events result ↔ events = [] ∧ result = none := by
  constructor
  · intro h
    cases h
    exact ⟨rfl, rfl⟩
  · rintro ⟨rfl, rfl⟩
    exact .crash

/-- A plan that looks may find either answer, and goes on with it. -/
@[simp]
theorem course_poll_iff {next : Bool → Plan α} {result : Option α} :
    (Plan.poll next).Course events result ↔
      ∃ cancelled rest, (next cancelled).Course rest result ∧
        events = .looked cancelled :: rest := by
  constructor
  · intro h
    cases h with
    | poll cancelled rest => exact ⟨cancelled, _, rest, rfl⟩
  · rintro ⟨cancelled, rest, hrest, rfl⟩
    exact .poll cancelled hrest

/-- A plan that asks may get any answer, and goes on with it. -/
@[simp]
theorem course_ask_iff {request : Request} {next : request.Answer → Plan α} {result : Option α} :
    (Plan.ask request next).Course events result ↔
      ∃ answer rest, (next answer).Course rest result ∧
        events = .answered request answer :: rest := by
  constructor
  · intro h
    cases h with
    | ask answer rest => exact ⟨answer, _, rest, rfl⟩
  · rintro ⟨answer, rest, hrest, rfl⟩
    exact .ask answer hrest

/-- A continued plan either runs through its first part and then through the continuation, or
crashes in its first part. -/
theorem course_bind_iff {plan : Plan α} {next : α → Plan β} {result : Option β} :
    (plan.bind next).Course events result ↔
      (∃ value first rest, plan.Course first (some value) ∧ (next value).Course rest result ∧
        events = first ++ rest) ∨ (plan.Course events none ∧ result = none) := by
  induction plan generalizing events with
  | done value =>
      simp only [done_bind, course_done_iff]
      constructor
      · intro h
        exact .inl ⟨value, [], events, ⟨rfl, rfl⟩, h, rfl⟩
      · rintro (⟨_, _, rest, ⟨rfl, ⟨⟩⟩, h, rfl⟩ | ⟨⟨_, ⟨⟩⟩, _⟩)
        exact h
  | crash => simp
  | poll tail ih =>
      simp only [poll_bind, course_poll_iff, ih]
      constructor
      · rintro ⟨cancelled, rest, ⟨value, first, last, hfirst, hlast, rfl⟩ | ⟨hnone, rfl⟩, rfl⟩
        · exact .inl ⟨value, _, last, ⟨cancelled, first, hfirst, rfl⟩, hlast, rfl⟩
        · exact .inr ⟨⟨cancelled, rest, hnone, rfl⟩, rfl⟩
      · rintro (⟨value, _, last, ⟨cancelled, first, hfirst, rfl⟩, hlast, rfl⟩ |
          ⟨⟨cancelled, rest, hnone, rfl⟩, rfl⟩)
        · exact ⟨cancelled, first ++ last, .inl ⟨value, first, last, hfirst, hlast, rfl⟩, rfl⟩
        · exact ⟨cancelled, rest, .inr ⟨hnone, rfl⟩, rfl⟩
  | ask request tail ih =>
      simp only [ask_bind, course_ask_iff, ih]
      constructor
      · rintro ⟨answer, rest, ⟨value, first, last, hfirst, hlast, rfl⟩ | ⟨hnone, rfl⟩, rfl⟩
        · exact .inl ⟨value, _, last, ⟨answer, first, hfirst, rfl⟩, hlast, rfl⟩
        · exact .inr ⟨⟨answer, rest, hnone, rfl⟩, rfl⟩
      · rintro (⟨value, _, last, ⟨answer, first, hfirst, rfl⟩, hlast, rfl⟩ |
          ⟨⟨answer, rest, hnone, rfl⟩, rfl⟩)
        · exact ⟨answer, first ++ last, .inl ⟨value, first, last, hfirst, hlast, rfl⟩, rfl⟩
        · exact ⟨answer, rest, .inr ⟨hnone, rfl⟩, rfl⟩

/-- A contained plan always has a value, which tells the crash of the plan from its value. -/
theorem course_contained_iff {plan : Plan α} {result : Option (Option α)} :
    plan.contained.Course events result ↔
      ∃ inner, plan.Course events inner ∧ result = some inner := by
  induction plan generalizing events with
  | done value => simp [contained, and_assoc]
  | crash => simp [contained, and_assoc]
  | poll tail ih =>
      simp only [contained, course_poll_iff, ih]
      constructor
      · rintro ⟨cancelled, rest, ⟨inner, hinner, rfl⟩, rfl⟩
        exact ⟨inner, ⟨cancelled, rest, hinner, rfl⟩, rfl⟩
      · rintro ⟨inner, ⟨cancelled, rest, hinner, rfl⟩, rfl⟩
        exact ⟨cancelled, rest, ⟨inner, hinner, rfl⟩, rfl⟩
  | ask request tail ih =>
      simp only [contained, course_ask_iff, ih]
      constructor
      · rintro ⟨answer, rest, ⟨inner, hinner, rfl⟩, rfl⟩
        exact ⟨inner, ⟨answer, rest, hinner, rfl⟩, rfl⟩
      · rintro ⟨inner, ⟨answer, rest, hinner, rfl⟩, rfl⟩
        exact ⟨answer, rest, ⟨inner, hinner, rfl⟩, rfl⟩

/-- The events of a course tell where it ends, and with what. -/
theorem Course.unique {plan : Plan α} {other rest otherRest : List Event}
    {result otherResult : Option α} (h : plan.Course events result)
    (hother : plan.Course other otherResult) (hsame : events ++ rest = other ++ otherRest) :
    events = other ∧ result = otherResult := by
  induction h generalizing other with
  | done value =>
      cases hother
      exact ⟨rfl, rfl⟩
  | crash =>
      cases hother
      exact ⟨rfl, rfl⟩
  | poll cancelled tail ih =>
      cases hother with
      | poll otherCancelled otherTail =>
          injection hsame with hlook hsame
          cases hlook
          obtain ⟨rfl, rfl⟩ := ih otherTail hsame
          exact ⟨rfl, rfl⟩
  | ask answer tail ih =>
      cases hother with
      | ask otherAnswer otherTail =>
          injection hsame with hanswer hsame
          cases hanswer
          obtain ⟨rfl, rfl⟩ := ih otherTail hsame
          exact ⟨rfl, rfl⟩

/-- Two continuations that agree on the values of a plan continue it to the same plan. -/
theorem bind_congr {plan : Plan α} {f g : α → Plan β}
    (h : ∀ events value, plan.Course events (some value) → f value = g value) :
    plan.bind f = plan.bind g := by
  induction plan with
  | done value => exact h [] value (.done value)
  | crash => rfl
  | poll tail ih =>
      simp only [poll_bind, Plan.poll.injEq]
      funext cancelled
      exact ih cancelled fun events value hcourse => h _ value (.poll cancelled hcourse)
  | ask request tail ih =>
      simp only [ask_bind, Plan.ask.injEq, heq_eq_eq, true_and]
      funext answer
      exact ih answer fun events value hcourse => h _ value (.ask answer hcourse)

end Form

/-! ## Silent plans -/

/-- Whether the observer is told nothing on any course. -/
def Silent (plan : Plan α) : Prop :=
  ∀ events result, plan.Course events result → Event.reports events = []

/-! ## Courses with demanded cancellation -/

/-- Every plan has a course on which each look finds cancellation demanded. -/
theorem exists_course_cancelled (plan : Plan α) :
    ∃ events result, plan.Course events result ∧ .looked false ∉ events := by
  induction plan with
  | done value => exact ⟨[], _, .done value, by simp⟩
  | crash => exact ⟨[], _, .crash, by simp⟩
  | poll next ih =>
      obtain ⟨events, result, hcourse, hlooks⟩ := ih true
      exact ⟨_, _, .poll true hcourse, by simp [hlooks]⟩
  | ask request next ih =>
      obtain ⟨events, result, hcourse, hlooks⟩ := ih request.anyAnswer
      exact ⟨_, _, .ask request.anyAnswer hcourse, by simp [hlooks]⟩

/-! ## The course with a host -/

/-- The events of a run, in order. -/
def events (host : Host σ) : Plan α → σ → List Event
  | .done _, _ => []
  | .crash, _ => []
  | .poll next, state =>
      .looked (host.cancelled state) :: (next (host.cancelled state)).events host state
  | .ask request next, state =>
      let (answer, state) := host.answer request state
      .answered request answer :: (next answer).events host state

/-- Every host takes a plan through a course of it. -/
theorem course_run (host : Host σ) (plan : Plan α) (state : σ) :
    plan.Course (plan.events host state) (plan.run host state).1 := by
  induction plan generalizing state with
  | done value => exact .done value
  | crash => exact .crash
  | poll next ih => exact .poll _ (ih _ state)
  | ask request next ih => exact .ask _ (ih _ _)

/-- The events of a continued plan are those of its first part, and then those of the continuation
unless the first part crashes. -/
theorem events_bind (host : Host σ) (plan : Plan α) (next : α → Plan β) (state : σ) :
    (plan.bind next).events host state = plan.events host state ++
      match plan.run host state with
      | (some value, state) => (next value).events host state
      | (none, _) => [] := by
  induction plan generalizing state with
  | done value => rfl
  | crash => rfl
  | poll rest ih => simpa [events] using ih _ _
  | ask request rest ih => simpa [events] using ih _ _

/-- A run that comes to a value is a course to it. -/
theorem course_run_get (host : Host σ) (plan : Plan α) (state : σ)
    (h : (plan.run host state).1.isSome = true) :
    plan.Course (plan.events host state) (some ((plan.run host state).1.get h)) := by
  rw [Option.some_get]
  exact course_run host plan state

/-- What holds of every answer of a host, and of looking at the cancellation, holds of all events
of its runs. -/
theorem forall_mem_events {host : Host σ} {holds : Event → Prop}
    (hlooked : ∀ cancelled, holds (.looked cancelled))
    (hanswered : ∀ request state, holds (.answered request (host.answer request state).1))
    (plan : Plan α) (state : σ) : ∀ event ∈ plan.events host state, holds event := by
  induction plan generalizing state with
  | done value => simp [events]
  | crash => simp [events]
  | poll next ih =>
      intro event hevent
      rcases List.mem_cons.1 hevent with rfl | hevent
      · exact hlooked _
      · exact ih _ state event hevent
  | ask request next ih =>
      intro event hevent
      rcases List.mem_cons.1 hevent with rfl | hevent
      · exact hanswered request state
      · exact ih _ _ event hevent

end Plan

end CodeSurvey
