import CodeSurvey.Analysis
import CodeSurvey.FileTree
import CodeSurvey.Judge.Message
import CodeSurvey.Run.Basic
import CodeSurvey.Snapshot
import CodeSurvey.Store

/-!
# Requests to the outside

A survey depends on collaborators: someone who makes the repository available, a summarizer, a
parser, an embedder, a judge, post-processors and an observer.  All that a survey wants from them is
a request, and each request has a type of answers.

## Main definitions

* `Outcome`: what became of one call, which may also fail, take too long or panic.
* `Request`: what a survey may ask for.
* `Request.Answer`: the answers to a request.
-/

namespace CodeSurvey

/-- What became of a call: its value, an error, no answer in time, or a panic of the callee. -/
inductive Outcome (ε α : Type) where
  | ok (value : α)
  | failed (error : ε)
  | timedOut
  | panicked
  deriving Repr

namespace Outcome

variable {ε ε' α β : Type}

/-- The outcome with its value changed. -/
def map (f : α → β) : Outcome ε α → Outcome ε β
  | .ok value => .ok (f value)
  | .failed error => .failed error
  | .timedOut => .timedOut
  | .panicked => .panicked

/-- The outcome with its error changed. -/
def mapError (f : ε → ε') : Outcome ε α → Outcome ε' α
  | .ok value => .ok value
  | .failed error => .failed (f error)
  | .timedOut => .timedOut
  | .panicked => .panicked

end Outcome

/-- What became of the three calls that analyze a snapshot concurrently. -/
structure AnalysisReplies where
  summaries : Outcome Failure (List SummaryRecord)
  graph : Outcome Failure StructuralGraph
  embeddings : Outcome Failure (List EmbeddingRecord)

/-- What a survey may ask for.

* `phase`, `evaluated`: the observer is told of a phase or of an evaluation.
* `materialize`: the repository is made available at a local path.
* `tree`: the files at a local path are read.
* `analyze`: summaries, structure and embeddings are computed concurrently.  The embedder is not
  called when there are no snippets.
* `summarizeSnippet`: the summarizer is asked about one snippet.
* `attemptTier`: the tier at a place of the ladder is tried on a node.
* `embedTexts`: texts are embedded, so many of them at the same time.
* `judgeAvailable`, `askJudge`: the judge is asked whether it is there, and for its verdict.
* `decide`: a strategy of the caller decides.
* `postProcess`: the post-processor at a place is run. -/
inductive Request where
  | phase (phase : Phase) (run : Run)
  | evaluated (evaluation : Evaluation)
  | materialize (repo : RepoRef) (run : RunId)
  | tree (root : String)
  | analyze (snapshot : Snapshot) (targets : Option TargetSet) (snippets : List Snippet)
  | summarizeSnippet (id : EntityId) (code : String)
  | attemptTier (place : Nat) (node : StructuralNode)
  | embedTexts (texts : List String) (limit : Nat)
  | judgeAvailable
  | askJudge (messages : List Judge.Message) (generation : Judge.Generation)
  | decide (context : DecisionContext)
  | postProcess (place : Nat) (store : Store) (evaluation : Option Evaluation)

/-- The answers to a request.  Embedded texts are answered by their places. -/
abbrev Request.Answer : Request → Type
  | .phase .. | .evaluated .. => Unit
  | .materialize .. => Outcome Failure String
  | .tree .. => Option FileTree
  | .analyze .. => AnalysisReplies
  | .summarizeSnippet .. => Outcome Failure String
  | .attemptTier .. => Outcome Failure (Option String)
  | .embedTexts .. => Nat → Outcome Failure Vector32
  | .judgeAvailable => Outcome Failure Bool
  | .askJudge .. => Outcome String String
  | .decide .. => Decision
  | .postProcess .. => Outcome String Unit

end CodeSurvey
