import CodeSurvey.Capability.Request

/-!
# Scripted replies

In a rehearsal the collaborators of a survey follow a script.  A reply says what a collaborator does
when it is called: it may demand the cancellation of the run, it takes some time, and then comes its
outcome.  No real time passes; a delay is only compared with the time that the call may take.

## Main definitions

* `Reply`, `Reply.within`: a reply, and what the caller sees of it.
* `Passes`: the replies of successive calls, of which the last one is repeated.
* `Slots`: how calls share a limited number of slots.
-/

namespace CodeSurvey
namespace Rehearsal

/-- What a collaborator does when it is called.  Delays are in milliseconds. -/
structure Reply (α : Type) where
  cancels : Bool
  delay : Nat
  outcome : Outcome Failure α

namespace Reply

variable {α β : Type}

/-- The reply that gives a value at once. -/
def value (a : α) : Reply α := ⟨false, 0, .ok a⟩

/-- The reply that fails at once. -/
def failure (error : Failure) : Reply α := ⟨false, 0, .failed error⟩

/-- The reply with its value changed. -/
def map (f : α → β) (reply : Reply α) : Reply β :=
  ⟨reply.cancels, reply.delay, reply.outcome.map f⟩

/-- What a caller who waits no longer than `timeout` sees, and how long it takes. -/
def within (reply : Reply α) (timeout : Nat) : Outcome Failure α × Nat :=
  if timeout < reply.delay then (.timedOut, timeout) else (reply.outcome, reply.delay)

end Reply

/-! ## Successive calls -/

/-- The replies of successive calls. -/
structure Passes (α : Type) where
  replies : List (Reply α)
  usual : Reply α

/-- The reply of a call by its number.  The last reply is repeated, and where there is none the
usual one is given. -/
def Passes.reply {α : Type} (passes : Passes α) (call : Nat) : Reply α :=
  (passes.replies[min call (passes.replies.length - 1)]?).getD passes.usual

/-! ## Concurrent calls -/

/-- The slots that calls share: when each busy slot becomes free, and when the calls so far have
started, the latest one first. -/
structure Slots where
  free : List Nat
  starts : List Nat

namespace Slots

/-- No call has started. -/
def idle : Slots := ⟨[], []⟩

/-- When the first of the busy slots becomes free. -/
def firstFree (slots : Slots) : Nat := slots.free.foldl min (slots.free.headD 0)

/-- The slots after one more call has started, as early as one of `limit` slots is free. -/
def add (limit : Nat) (slots : Slots) (duration : Nat) : Slots :=
  if slots.free.length < limit then ⟨duration :: slots.free, 0 :: slots.starts⟩
  else
    let start := slots.firstFree
    ⟨(start + duration) :: slots.free.erase start, start :: slots.starts⟩

/-- The slots after calls of given durations. -/
def ofDurations (limit : Nat) (durations : List Nat) : Slots := durations.foldl (add limit) idle

/-- When all calls have ended. -/
def finish (slots : Slots) : Nat := slots.free.foldl max 0

end Slots

end Rehearsal
end CodeSurvey
