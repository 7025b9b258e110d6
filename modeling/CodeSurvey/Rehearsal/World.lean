import CodeSurvey.Capability.Plan
import CodeSurvey.Rehearsal.Script

/-!
# The scripted world

The state of a rehearsal counts the calls of every collaborator, and keeps what has been called and
what an observer has seen.  Answering a request takes some time, of which only the amount is known.

## Main definitions

* `Call`, `Observation`, `World`: what is kept.
* `Script.answer`: the answer to a request, how long it takes, and the state after it.
* `Script.host`: the script as someone who answers requests.
-/

namespace CodeSurvey
namespace Rehearsal

/-- A call to a collaborator. -/
inductive Call where
  | summarize (targets : Option TargetSet)
  | snippet (id : EntityId) (code : String)
  | parse (files : Nat)
  | embedSnippets (snippets : List Snippet)
  | embedText (text : String)
  | available
  | chat (messages : List Judge.Message) (generation : Judge.Generation)
  | materialize (repo : RepoRef)

/-- What an observer sees. -/
inductive Observation where
  | phase (phase : Phase) (run : Run)
  | evaluated (evaluation : Evaluation)

/-- What a post-processor is shown. -/
structure Presentation where
  processor : String
  size : Nat
  evaluation : Option Evaluation

/-- The state of a rehearsal.  Calls are kept with their times; what came last stands first. -/
structure World where
  cancelled : Bool
  summarized : Nat
  parsed : Nat
  embedded : Nat
  judged : Nat
  seen : List Observation
  presented : List Presentation
  calls : List (Nat × Call)

namespace World

/-- The state before anything has been asked. -/
def start : World := ⟨false, 0, 0, 0, 0, [], [], []⟩

/-- The state after a call at a time. -/
def log (world : World) (time : Nat) (call : Call) : World :=
  { world with calls := (time, call) :: world.calls }

/-- The calls with their times, the earliest one first. -/
def history (world : World) : List (Nat × Call) :=
  world.calls.reverse.mergeSort fun a b => decide (a.1 ≤ b.1)

/-- All calls, the earliest one first. -/
def allCalls (world : World) : List Call := world.history.map (·.2)

/-- The calls that have started by a time, the earliest one first. -/
def callsBy (world : World) (time : Nat) : List Call :=
  (world.history.filter fun entry => decide (entry.1 ≤ time)).map (·.2)

/-- How often a phase has been entered. -/
def entries (world : World) (phase : Phase) : Nat :=
  (world.seen.filter fun
    | .phase entered _ => entered == phase
    | .evaluated _ => false).length

@[simp]
theorem log_cancelled (world : World) (time : Nat) (call : Call) :
    (world.log time call).cancelled = world.cancelled :=
  rfl

end World

namespace Script

variable {α : Type}

/-- The state after a reply has been acted out. -/
def acted (script : Script) (reply : Reply α) (world : World) : World :=
  if script.cancelsRuns && reply.cancels then { world with cancelled := true } else world

/-- The state after an observer has seen a phase. -/
def observe (script : Script) (phase : Phase) (run : Run) (world : World) : World :=
  if script.silent then world
  else
    let time := world.entries phase + 1
    { world with
      seen := .phase phase run :: world.seen
      cancelled := world.cancelled || script.cancelOn == some (phase, time) }

/-- The answers of the three collaborators that analyze a snapshot. -/
def analyze (script : Script) (now : Nat) (snapshot : Snapshot) (targets : Option TargetSet)
    (snippets : List Snippet) (world : World) : AnalysisReplies × Nat × World :=
  let summaries := script.summaries.reply world.summarized
  let graph := script.graphs.reply world.parsed
  let world := script.acted summaries (world.log now (.summarize targets))
  let world := script.acted graph (world.log now (.parse snapshot.files.length))
  let world := { world with summarized := world.summarized + 1, parsed := world.parsed + 1 }
  let (summaries, summariesTime) := summaries.within script.timeout
  let (graph, graphTime) := graph.within script.timeout
  if snippets.isEmpty then (⟨summaries, graph, .ok []⟩, max summariesTime graphTime, world)
  else
    let embeddings := script.embeddings.reply world.embedded
    let world := script.acted embeddings (world.log now (.embedSnippets snippets))
    let world := { world with embedded := world.embedded + 1 }
    let (embeddings, embeddingsTime) := (embeddings.map (· snippets)).within script.timeout
    (⟨summaries, graph, embeddings⟩, max summariesTime (max graphTime embeddingsTime), world)

/-- Whether what happens at one time and place of a list comes before what happens at another. -/
def earlier (first second : Nat × Nat) : Bool :=
  decide (first.1 < second.1) || (first.1 == second.1 && decide (first.2 < second.2))

/-- When and where the first panic of concurrent calls occurs, given when each of them starts, its
outcome and its duration. -/
def firstPanic? (calls : List (Nat × Outcome Failure α × Nat)) : Option (Nat × Nat) :=
  let panics := calls.zipIdx.filterMap fun ((start, outcome, duration), place) =>
    match outcome with
    | .panicked => some (start + duration, place)
    | _ => none
  panics.foldl (fun first? panic =>
    match first? with
    | some first => if earlier panic first then some panic else some first
    | none => some panic) none

/-- Whether a call is made before a panic ends all of them. -/
def isMade (panic? : Option (Nat × Nat)) (start place : Nat) : Bool :=
  match panic? with
  | some panic => earlier (start, place) panic || place == panic.2
  | none => true

/-- The embedded texts by their places, at most so many of them in work at the same time.  No text
is embedded after a panic. -/
def embedTexts (script : Script) (now : Nat) (texts : List String) (limit : Nat) (world : World) :
    (Nat → Outcome Failure Vector32) × Nat × World :=
  let replies := texts.map script.text
  let results := replies.map (·.within script.timeout)
  let slots := Slots.ofDurations limit (results.map (·.2))
  let starts := slots.starts.reverse
  let panic? := firstPanic? (starts.zip results)
  let world := (texts.zip starts).zipIdx.foldl
    (fun world ((text, start), place) =>
      if isMade panic? start place then world.log (now + start) (.embedText text) else world)
    world
  let world := replies.foldl (fun world reply => script.acted reply world) world
  let outcomes := (results.map (·.1)).toArray
  (fun place => outcomes.getD place .timedOut, slots.finish, world)

/-- The answer to a request at a time, how long it takes, and the state after it. -/
def answer (script : Script) (now : Nat) (request : Request) (world : World) :
    request.Answer × Nat × World :=
  match request with
  | .phase phase run => ((), 0, script.observe phase run world)
  | .evaluated evaluation =>
      ((), 0, if script.silent then world
        else { world with seen := .evaluated evaluation :: world.seen })
  | .materialize repo _ =>
      match script.repository with
      | none => (script.localRepository repo, 0, world)
      | some reply =>
          let (outcome, time) := reply.within script.timeout
          (outcome, time, script.acted reply (world.log now (.materialize repo)))
  | .tree root => (script.files.resolve? root, 0, world)
  | .analyze snapshot targets snippets => script.analyze now snapshot targets snippets world
  | .summarizeSnippet id code =>
      let reply := (script.snippet id).map (· code)
      let (outcome, time) := reply.within script.snippetTimeout
      (outcome, time, script.acted reply (world.log now (.snippet id code)))
  | .attemptTier place node => (script.attempt place node.id, 0, world)
  | .embedTexts texts limit => script.embedTexts now texts limit world
  | .judgeAvailable =>
      let (outcome, time) := script.available.within script.timeout
      (outcome, time, script.acted script.available (world.log now .available))
  | .askJudge messages generation =>
      let reply := script.verdicts.reply world.judged
      let (outcome, time) := reply.within script.timeout
      let world := script.acted reply (world.log now (.chat messages generation))
      (outcome.mapError Failure.message, time, { world with judged := world.judged + 1 })
  | .decide _ => (script.decision, 0, world)
  | .postProcess place store evaluation =>
      let shown : Presentation := ⟨script.processorName place, store.size, evaluation⟩
      (script.process place, 0, { world with presented := shown :: world.presented })

/-- The script as someone who answers requests, where the time that it takes does not matter. -/
def host (script : Script) : Host World where
  cancelled := World.cancelled
  answer request world :=
    let (answer, _, world) := script.answer 0 request world
    (answer, world)

end Script

end Rehearsal
end CodeSurvey
