import CodeSurvey.Ingest
import CodeSurvey.Rehearsal.Reply

/-!
# Scripts

A script says how every collaborator of a survey plays its part: successive calls of the summarizer,
the parser, the embedder and the judge have successive replies, while snippets and texts are looked
up.  Without a scripted repository the files of a working directory are used.
-/

namespace CodeSurvey
namespace Rehearsal

/-- The directory below which the files of a rehearsal lie. -/
def scratchRoot : String := "<tmp>"

/-- A path below the scratch directory. -/
def scratch (path : String) : String := scratchRoot ++ "/" ++ path

/-- The files before anything has been written: an empty scratch directory. -/
def emptyFiles : FileTree := .directory [(scratchRoot, .empty)]

/-- Whether there is a directory at a path. -/
def isDirectory (files : FileTree) (path : String) : Bool :=
  match files.resolve? path with
  | some tree => tree.isDirectory
  | none => false

/-- A post-processor by name, and what it does. -/
structure Processor where
  name : String
  outcome : Outcome String Unit

/-- How the collaborators of a survey play their parts.  Times are in milliseconds.

* `snippet` makes its text from the code that it is asked about.
* `embeddings` are made from the snippets that are asked about.
* `tiers` are the tiers of a ladder that are tried outside of it, by their places.
* `cancelsRuns` says whether a reply can cancel the run, and `cancelOn` in addition cancels it
  when a phase is entered for the given time.
* A `silent` script does not note what an observer sees. -/
structure Script where
  files : FileTree
  repository : Option (Reply String)
  summaries : Passes (List SummaryRecord)
  graphs : Passes StructuralGraph
  embeddings : Passes (List Snippet → List EmbeddingRecord)
  snippet : EntityId → Reply (String → String)
  text : String → Reply Vector32
  available : Reply Bool
  verdicts : Passes String
  tiers : List (EntityId → Outcome Failure (Option String))
  decision : Decision
  processors : List Processor
  timeout : Nat
  snippetTimeout : Nat
  cancelsRuns : Bool
  cancelOn : Option (Phase × Nat)
  silent : Bool

/-- The failure of a call for which a script has no reply. -/
def unscripted : Failure := .capability "no reply scripted"

namespace Script

/-- The script in which nobody has anything to say. -/
def empty : Script where
  files := emptyFiles
  repository := none
  summaries := ⟨[], .value []⟩
  graphs := ⟨[], .value .empty⟩
  embeddings := ⟨[], .value fun _ => []⟩
  snippet := fun _ => .failure unscripted
  text := fun _ => .failure unscripted
  available := .value true
  verdicts := ⟨[], .value ""⟩
  tiers := []
  decision := .accept
  processors := []
  timeout := 5000
  snippetTimeout := 5000
  cancelsRuns := false
  cancelOn := none
  silent := false

/-- What becomes of a tier that is tried at a place. -/
def attempt (script : Script) (place : Nat) (id : EntityId) : Outcome Failure (Option String) :=
  match script.tiers[place]? with
  | some tier => tier id
  | none => .ok none

/-- What becomes of the post-processor at a place. -/
def process (script : Script) (place : Nat) : Outcome String Unit :=
  match script.processors[place]? with
  | some processor => processor.outcome
  | none => .ok ()

/-- The name of the post-processor at a place. -/
def processorName (script : Script) (place : Nat) : String :=
  match script.processors[place]? with
  | some processor => processor.name
  | none => ""

/-- How a repository is made available when no reply is scripted for it. -/
def localRepository (script : Script) (repo : RepoRef) : Outcome Failure String :=
  match Ingest.materializeLocal (isDirectory script.files) repo with
  | .ok path => .ok path
  | .error error => .failed error

end Script

end Rehearsal
end CodeSurvey
