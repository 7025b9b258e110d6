import CodeSurvey.Proofs.Capability.Course

/-!
# Plans that follow a protocol

A protocol says which events may happen in a state and to which states they lead, and in which
states a plan may end with which result.  A plan follows a protocol if every event on its way is one
of the moves that the protocol has there, whatever the answers are.  Unlike a statement about whole
courses this holds at every place of the plan, so it can be asked of what is left of a plan after
some steps.

## Main results

* `Plan.Follows`, with one equivalence for each form of a plan.
* `Plan.Follows.bind`: a continued plan follows a protocol if its parts do, one after the other.
* `Plan.Follows.exists_path`: every course of a plan is a path of the protocol.
* `Plan.Follows.forall_mem`: what holds of all moves holds of all events of a course.
* `Plan.Follows.silent`: a plan tells the observer nothing if its protocol has no reports.
-/

namespace CodeSurvey

namespace Plan

variable {α β σ τ : Type} {moves : σ → Event → σ → Prop} {s t : σ}

/-- Whether a plan follows a protocol from a state on. -/
def Follows (moves : σ → Event → σ → Prop) (ends : σ → Option α → Prop) : Plan α → σ → Prop
  | .done value, s => ends s (some value)
  | .crash, s => ends s none
  | .poll next, s =>
      ∀ cancelled, ∃ t, moves s (.looked cancelled) t ∧ (next cancelled).Follows moves ends t
  | .ask request next, s =>
      ∀ answer, ∃ t, moves s (.answered request answer) t ∧ (next answer).Follows moves ends t

section Form

variable {ends : σ → Option α → Prop}

@[simp]
theorem follows_done_iff {value : α} :
    (Plan.done value).Follows moves ends s ↔ ends s (some value) :=
  .rfl

@[simp]
theorem follows_crash_iff : (Plan.crash : Plan α).Follows moves ends s ↔ ends s none :=
  .rfl

end Form

/-! ## Parts of a plan -/

/-- The continuation takes over in the states in which the first plan ends with a value. -/
theorem Follows.bind {middle : σ → Option α → Prop} {ends : σ → Option β → Prop} {plan : Plan α}
    {next : α → Plan β} (hplan : plan.Follows moves middle s)
    (hvalue : ∀ t value, middle t (some value) → (next value).Follows moves ends t)
    (hcrash : ∀ t, middle t none → ends t none) : (plan.bind next).Follows moves ends s := by
  induction plan generalizing s with
  | done value => exact hvalue s value hplan
  | crash => exact hcrash s hplan
  | poll rest ih =>
      intro cancelled
      obtain ⟨t, hmove, hrest⟩ := hplan cancelled
      exact ⟨t, hmove, ih cancelled hrest⟩
  | ask request rest ih =>
      intro answer
      obtain ⟨t, hmove, hrest⟩ := hplan answer
      exact ⟨t, hmove, ih answer hrest⟩

/-- The protocol of a contained plan allows its crash as a result. -/
theorem Follows.contained {ends : σ → Option (Option α) → Prop} {plan : Plan α}
    (hplan : plan.Follows moves (fun t result => ends t (some result)) s) :
    plan.contained.Follows moves ends s := by
  induction plan generalizing s with
  | done value => exact hplan
  | crash => exact hplan
  | poll rest ih =>
      intro cancelled
      obtain ⟨t, hmove, hrest⟩ := hplan cancelled
      exact ⟨t, hmove, ih cancelled hrest⟩
  | ask request rest ih =>
      intro answer
      obtain ⟨t, hmove, hrest⟩ := hplan answer
      exact ⟨t, hmove, ih answer hrest⟩

/-- The ends may use what is known about the courses of the plan. -/
theorem Follows.strengthen {ends stronger : σ → Option α → Prop} {plan : Plan α}
    (hplan : plan.Follows moves ends s)
    (h : ∀ events t result, plan.Course events result → ends t result → stronger t result) :
    plan.Follows moves stronger s := by
  induction plan generalizing s with
  | done value => exact h [] s _ (.done value) hplan
  | crash => exact h [] s _ .crash hplan
  | poll rest ih =>
      intro cancelled
      obtain ⟨t, hmove, hrest⟩ := hplan cancelled
      exact ⟨t, hmove, ih cancelled hrest fun _ u _ hcourse => h _ u _ (.poll cancelled hcourse)⟩
  | ask request rest ih =>
      intro answer
      obtain ⟨t, hmove, hrest⟩ := hplan answer
      exact ⟨t, hmove, ih answer hrest fun _ u _ hcourse => h _ u _ (.ask answer hcourse)⟩

/-- A plan that follows a protocol follows every protocol that simulates it. -/
theorem Follows.simulate {moves' : τ → Event → τ → Prop} {ends : σ → Option α → Prop}
    {ends' : τ → Option α → Prop} {plan : Plan α} {s' : τ} (related : σ → τ → Prop)
    (hplan : plan.Follows moves ends s) (hs : related s s')
    (hmoves : ∀ s s' event t, related s s' → moves s event t →
      ∃ t', moves' s' event t' ∧ related t t')
    (hends : ∀ s s' result, related s s' → ends s result → ends' s' result) :
    plan.Follows moves' ends' s' := by
  induction plan generalizing s s' with
  | done value => exact hends s s' _ hs hplan
  | crash => exact hends s s' _ hs hplan
  | poll rest ih =>
      intro cancelled
      obtain ⟨t, hmove, hrest⟩ := hplan cancelled
      obtain ⟨t', hmove', ht⟩ := hmoves s s' _ t hs hmove
      exact ⟨t', hmove', ih cancelled hrest ht⟩
  | ask request rest ih =>
      intro answer
      obtain ⟨t, hmove, hrest⟩ := hplan answer
      obtain ⟨t', hmove', ht⟩ := hmoves s s' _ t hs hmove
      exact ⟨t', hmove', ih answer hrest ht⟩

/-! ## Paths -/

/-- The paths of a protocol, with the events on the way. -/
inductive Path (moves : σ → Event → σ → Prop) : σ → List Event → σ → Prop where
  | nil (s : σ) : Path moves s [] s
  | cons {s t u : σ} {event : Event} {events : List Event} (move : moves s event t)
      (rest : Path moves t events u) : Path moves s (event :: events) u

/-- A plan that follows a protocol ends each of its courses where the protocol allows its result. -/
theorem Follows.exists_path {ends : σ → Option α → Prop} {plan : Plan α} {events : List Event}
    {result : Option α} (hplan : plan.Follows moves ends s) (hcourse : plan.Course events result) :
    ∃ t, Path moves s events t ∧ ends t result := by
  induction hcourse generalizing s with
  | done value => exact ⟨s, .nil s, hplan⟩
  | crash => exact ⟨s, .nil s, hplan⟩
  | poll cancelled rest ih =>
      obtain ⟨t, hmove, hrest⟩ := hplan cancelled
      obtain ⟨u, hpath, hends⟩ := ih hrest
      exact ⟨u, .cons hmove hpath, hends⟩
  | ask answer rest ih =>
      obtain ⟨t, hmove, hrest⟩ := hplan answer
      obtain ⟨u, hpath, hends⟩ := ih hrest
      exact ⟨u, .cons hmove hpath, hends⟩

theorem Path.forall_mem {holds : Event → Prop} {events : List Event} (h : Path moves s events t)
    (hmoves : ∀ s event t, moves s event t → holds event) : ∀ event ∈ events, holds event := by
  induction h with
  | nil s => simp
  | cons move rest ih => exact List.forall_mem_cons.2 ⟨hmoves _ _ _ move, ih⟩

/-- What holds of all moves of its protocol holds of everything that a plan meets. -/
theorem Follows.forall_mem {holds : Event → Prop} {ends : σ → Option α → Prop} {plan : Plan α}
    {events : List Event} {result : Option α} (hplan : plan.Follows moves ends s)
    (hmoves : ∀ s event t, moves s event t → holds event) (hcourse : plan.Course events result) :
    ∀ event ∈ events, holds event := by
  obtain ⟨t, hpath, _⟩ := hplan.exists_path hcourse
  exact hpath.forall_mem hmoves

/-- A plan whose protocol has no reports is silent. -/
theorem Follows.silent {ends : σ → Option α → Prop} {plan : Plan α}
    (hplan : plan.Follows moves ends s)
    (hmoves : ∀ s event t, moves s event t → event.isReport = false) : plan.Silent := by
  intro events result hcourse
  rw [Event.reports, List.filter_eq_nil_iff]
  intro event hevent
  simpa using hplan.forall_mem hmoves hcourse event hevent

end Plan

end CodeSurvey
