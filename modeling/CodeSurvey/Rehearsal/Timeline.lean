import CodeSurvey.Rehearsal.World
import CodeSurvey.Service.Basic

/-!
# A service on virtual time

In a rehearsal the runs of a service share one thread and a virtual clock.  A run goes on until it
asks for something that takes time, and then sleeps until it has its answer.  While the caller
sleeps the clock jumps from one awakening to the next.  Where the caller and a run wake at the same
time, the caller goes first; runs that wake at the same time go on in the order in which they fell
asleep.

## Main definitions

* `Timeline.resume`: a run goes on until it sleeps.
* `Timeline.advance`: the caller sleeps.
-/

namespace CodeSurvey
namespace Rehearsal

/-- A service, the scripted world, the clock in milliseconds, and when which run wakes. -/
structure Timeline where
  service : Service
  world : World
  now : Nat
  sleeping : List (Nat × RunId)

namespace Timeline

/-- The beginning of a rehearsal. -/
def start (setup : Setup) : Timeline := ⟨.new setup, .start, 0, []⟩

/-- The time that reports are stamped with.  It is not the virtual one, and it stands still. -/
def wallClock : Int := 0

/-- Adds an awakening behind those at the same time or before. -/
def insertWake (wake : Nat) (id : RunId) : List (Nat × RunId) → List (Nat × RunId)
  | [] => [(wake, id)]
  | entry :: rest =>
      if wake < entry.1 then (wake, id) :: entry :: rest else entry :: insertWake wake id rest

/-- The timeline with a run asleep for some time. -/
def sleep (timeline : Timeline) (id : RunId) (duration : Nat) : Timeline :=
  { timeline with sleeping := insertWake (timeline.now + duration) id timeline.sleeping }

/-- The answers of the script at the moment. -/
def replies (script : Script) (timeline : Timeline) : Replies := fun request =>
  (script.answer timeline.now request timeline.world).1

/-- The timeline after one step of a run. -/
def step (script : Script) (id : RunId) (timeline : Timeline) : Timeline :=
  { timeline with service := timeline.service.step id (timeline.replies script) wallClock }

/-- A run with so much left of its plan goes on until it ends or sleeps. -/
def resume (script : Script) (id : RunId) : Plan Progress → Timeline → Timeline
  | .done _, timeline => timeline.step script id
  | .crash, timeline => timeline.step script id
  | .poll next, timeline =>
      resume script id (next (timeline.service.isCancelled id)) (timeline.step script id)
  | .ask request next, timeline =>
      let (answer, duration, world) := script.answer timeline.now request timeline.world
      let timeline := { timeline.step script id with world := world }
      if duration = 0 then resume script id (next answer) timeline
      else timeline.sleep id duration

/-- The run that wakes first goes on, if it wakes before the deadline. -/
def wakeFirst? (script : Script) (deadline : Nat) (timeline : Timeline) : Option Timeline :=
  match timeline.sleeping with
  | [] => none
  | (wake, id) :: rest =>
      if wake < deadline then
        let timeline := { timeline with now := wake, sleeping := rest }
        match timeline.service.plan? id with
        | some plan => some (timeline.resume script id plan)
        | none => some timeline
      else none

/-- Runs wake one after the other as long as they do so before the deadline. -/
def wakeUntil (script : Script) (deadline : Nat) : (fuel : Nat) → Timeline → Timeline
  | 0, timeline => timeline
  | fuel + 1, timeline =>
      match timeline.wakeFirst? script deadline with
      | some timeline => wakeUntil script deadline fuel timeline
      | none => timeline

/-- The caller sleeps for some time.  A run sleeps for at least one millisecond each time, so it
wakes no more often than there are milliseconds. -/
def advance (script : Script) (duration : Nat) (timeline : Timeline) : Timeline :=
  let deadline := timeline.now + duration
  { timeline.wakeUntil script deadline (timeline.sleeping.length * duration) with now := deadline }

/-- The timeline with a started run, which begins as soon as the caller sleeps. -/
def begin (timeline : Timeline) (service : Service) (id : RunId) : Timeline :=
  { timeline with service := service }.sleep id 0

end Timeline

end Rehearsal
end CodeSurvey
