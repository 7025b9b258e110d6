import CodeSurvey.EntityId

/-!
# Repositories and their snapshots

A run surveys a repository, given by a local path or by a remote location.  All stages of the run
work on one immutable snapshot of its source files.
-/

namespace CodeSurvey

/-- Where the surveyed repository is. -/
inductive RepoRef where
  | localPath (path : String)
  | remote (uri : String)
  deriving DecidableEq, Repr

/-- The location as text. -/
def RepoRef.text : RepoRef → String
  | .localPath path => path
  | .remote uri => uri

/-- A source file with its path and its content. -/
structure SourceFile where
  id : EntityId
  path : String
  content : String
  deriving DecidableEq, Repr

/-- The source files of a repository at one moment. -/
structure Snapshot where
  root : String
  files : List SourceFile
  deriving DecidableEq, Repr

namespace Snapshot

/-- The first file with an identity. -/
def file? (snapshot : Snapshot) (id : EntityId) : Option SourceFile :=
  snapshot.files.find? fun file => file.id = id

/-- The files whose own identity is in scope.  A target that names a symbol does not select the
file around it. -/
def filesInScope (snapshot : Snapshot) (targets : Option TargetSet) : List SourceFile :=
  snapshot.files.filter fun file => inScope targets file.id

end Snapshot

/-- The code of an entity as it is handed to the embedder. -/
structure Snippet where
  id : EntityId
  code : String
  deriving DecidableEq, Repr

end CodeSurvey
