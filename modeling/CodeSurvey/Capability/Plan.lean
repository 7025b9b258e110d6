import CodeSurvey.Capability.Request

/-!
# Plans

A plan says what is asked of the outside and how it goes on with each answer.  It is a well-founded
tree, so every plan comes to an end whatever the answers are.  Beside requests a plan may look
whether its cancellation has been demanded, and it may crash when a panic is not contained.

## Main definitions

* `Plan`, with its monad structure.
* `Plan.contained`: a plan whose crash is a result.
* `Host`, `Plan.run`: someone who answers requests, and the run of a plan with it.
* `Plan.requests`: all that is asked in a run.
-/

namespace CodeSurvey

/-- A tree of requests that ends in a value or in a crash. -/
inductive Plan (α : Type) where
  | done (value : α)
  | crash
  | poll (next : Bool → Plan α)
  | ask (request : Request) (next : request.Answer → Plan α)

namespace Plan

variable {α β γ : Type}

/-- The first plan, continued by the second one with its value. -/
def bind : Plan α → (α → Plan β) → Plan β
  | .done value, next => next value
  | .crash, _ => .crash
  | .poll rest, next => .poll fun cancelled => (rest cancelled).bind next
  | .ask request rest, next => .ask request fun answer => (rest answer).bind next

instance : Monad Plan where
  pure := .done
  bind := bind

/-- The plan that asks one request for its answer. -/
def request (request : Request) : Plan request.Answer := .ask request .done

/-- The plan that looks whether cancellation has been demanded. -/
def cancelled : Plan Bool := .poll .done

/-- The plan with its crash turned into a result without a value. -/
def contained : Plan α → Plan (Option α)
  | .done value => .done (some value)
  | .crash => .done none
  | .poll next => .poll fun cancelled => (next cancelled).contained
  | .ask request next => .ask request fun answer => (next answer).contained

@[simp]
theorem pure_eq_done (value : α) : (pure value : Plan α) = .done value :=
  rfl

@[simp]
theorem bind_eq (plan : Plan α) (next : α → Plan β) : plan >>= next = plan.bind next :=
  rfl

@[simp]
theorem done_bind (value : α) (next : α → Plan β) : (Plan.done value).bind next = next value :=
  rfl

/-- Nothing follows a crash. -/
@[simp]
theorem crash_bind (next : α → Plan β) : (Plan.crash : Plan α).bind next = .crash :=
  rfl

@[simp]
theorem poll_bind (rest : Bool → Plan α) (next : α → Plan β) :
    (Plan.poll rest).bind next = .poll fun cancelled => (rest cancelled).bind next :=
  rfl

@[simp]
theorem ask_bind (request : Request) (rest : request.Answer → Plan α) (next : α → Plan β) :
    (Plan.ask request rest).bind next = .ask request fun answer => (rest answer).bind next :=
  rfl

/-- A plan that is followed by nothing is the plan itself. -/
@[simp]
theorem bind_done (plan : Plan α) : plan.bind .done = plan := by
  induction plan with
  | done value => rfl
  | crash => rfl
  | poll next ih => simp [bind, ih]
  | ask request next ih => simp [bind, ih]

/-- Three plans in a row may be put together from either end. -/
theorem bind_assoc (plan : Plan α) (f : α → Plan β) (g : β → Plan γ) :
    (plan.bind f).bind g = plan.bind fun value => (f value).bind g := by
  induction plan with
  | done value => rfl
  | crash => rfl
  | poll next ih => simp [bind, ih]
  | ask request next ih => simp [bind, ih]

end Plan

/-! ## Running plans -/

/-- Someone who answers requests, depending on a state and changing it, and whose state says
whether cancellation has been demanded. -/
structure Host (σ : Type) where
  cancelled : σ → Bool
  answer : (request : Request) → σ → request.Answer × σ

namespace Plan

variable {α β σ : Type}

/-- The run of a plan: its value, or none if it crashed, and the state of the host after it. -/
def run (host : Host σ) : Plan α → σ → Option α × σ
  | .done value, state => (some value, state)
  | .crash, state => (none, state)
  | .poll next, state => (next (host.cancelled state)).run host state
  | .ask request next, state =>
      let (answer, state) := host.answer request state
      (next answer).run host state

/-- The requests of a run, in order. -/
def requests (host : Host σ) : Plan α → σ → List Request
  | .done _, _ => []
  | .crash, _ => []
  | .poll next, state => (next (host.cancelled state)).requests host state
  | .ask request next, state =>
      let (answer, state) := host.answer request state
      request :: (next answer).requests host state

@[simp]
theorem run_done (host : Host σ) (value : α) (state : σ) :
    (Plan.done value).run host state = (some value, state) :=
  rfl

@[simp]
theorem run_crash (host : Host σ) (state : σ) :
    (Plan.crash : Plan α).run host state = (none, state) :=
  rfl

@[simp]
theorem run_poll (host : Host σ) (next : Bool → Plan α) (state : σ) :
    (Plan.poll next).run host state = (next (host.cancelled state)).run host state :=
  rfl

@[simp]
theorem run_ask (host : Host σ) (request : Request) (next : request.Answer → Plan α) (state : σ) :
    (Plan.ask request next).run host state =
      (next (host.answer request state).1).run host (host.answer request state).2 :=
  rfl

/-- A host runs two plans in a row one after the other, the second one only if the first comes to a
value. -/
theorem run_bind (host : Host σ) (plan : Plan α) (next : α → Plan β) (state : σ) :
    (plan.bind next).run host state =
      match plan.run host state with
      | (some value, state) => (next value).run host state
      | (none, state) => (none, state) := by
  induction plan generalizing state with
  | done value => rfl
  | crash => rfl
  | poll rest ih => simpa using ih _ _
  | ask request rest ih => simpa using ih _ _

end Plan

end CodeSurvey
