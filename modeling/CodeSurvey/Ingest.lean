import CodeSurvey.Failure
import CodeSurvey.FileTree
import CodeSurvey.Settings.Basic
import CodeSurvey.Snapshot
import CodeSurvey.Text.LetterCase

/-!
# Taking a snapshot of a working directory

The source files below a directory are found by walking it in the order of names, without entering
hidden and excluded directories.  The walk ends as soon as the allowed number of files has been
found.  Of the files found, those whose content is no text are left out.

## Main definitions

* `Ingest.entries`: what a walk meets.
* `Ingest.collect`: the source files that it finds until it ends.
* `Ingest.snapshot`: the snapshot of a directory.
* `Ingest.materializeLocal`: the working directory of a repository that is already there.
-/

namespace CodeSurvey
namespace Ingest

open Settings (Scan)

/-! ## Names -/

/-- What follows the last dot of a file name.  A dot at the beginning starts no extension. -/
def extension? (name : String) : Option String :=
  let cs := name.toList
  let tail := (cs.reverse.takeWhile (· != '.')).reverse
  if tail.length + 1 < cs.length then some (String.ofList tail) else none

/-- Whether the lowercase extension of a file name is configured. -/
def isSource (scan : Scan) (name : String) : Bool :=
  match extension? name with
  | some ext => !(Text.lowercase ext).isEmpty && scan.extensions.contains (Text.lowercase ext)
  | none => false

/-- Whether a directory with the name is never entered. -/
def isExcluded (scan : Scan) (name : String) : Bool :=
  name.toList.head? == some '.' || scan.excludedDirectories.contains name

/-! ## The walk -/

/-- What a walk meets: a directory, given by the names that lead to it from the root, or a file with
its bytes in a directory. -/
inductive Entry where
  | directory (names : List String)
  | file (above : List String) (name : String) (bytes : ByteArray)

mutual

/-- What a walk meets in a part of a directory, which is nothing in an excluded directory. -/
def entriesIn (scan : Scan) (above : List String) (name : String) : FileTree → List Entry
  | .file bytes => [.file above name bytes]
  | .directory parts =>
      if isExcluded scan name then []
      else .directory (above ++ [name]) :: entriesOf scan (above ++ [name]) parts

/-- What a walk meets in parts of a directory. -/
def entriesOf (scan : Scan) (above : List String) : List (String × FileTree) → List Entry
  | [] => []
  | (name, tree) :: rest => entriesIn scan above name tree ++ entriesOf scan above rest

end

/-- What a walk meets from a directory with these parts on.  The directory itself is entered
whatever its name. -/
def entries (scan : Scan) (parts : List (String × FileTree)) : List Entry :=
  .directory [] :: entriesOf scan [] (FileTree.partsInNameOrder parts)

/-- A source file found by a walk: the names that lead to it from the root, and its bytes. -/
structure Found where
  names : List String
  bytes : ByteArray

/-- The source file that a walk finds with an entry, if it is one. -/
def Entry.found? (scan : Scan) : Entry → Option Found
  | .directory _ => none
  | .file above name bytes =>
      if isSource scan name then some ⟨above ++ [name], bytes⟩ else none

/-- The source files that a walk finds with its entries, after so many that it has found before.
The walk ends with the entry after which the allowed number of files has been found. -/
def collect (scan : Scan) : (count : Nat) → List Entry → List Found
  | _, [] => []
  | count, entry :: rest =>
      match entry.found? scan with
      | some found =>
          found :: if scan.maxFiles ≤ count + 1 then [] else collect scan (count + 1) rest
      | none => if scan.maxFiles ≤ count then [] else collect scan count rest

/-! ## The snapshot -/

/-- A path and a name below it. -/
def joinPath (path : String) (name : String) : String :=
  if path.toList.getLast? == some '/' then path ++ name else path ++ "/" ++ name

/-- A found file with its content as text, if it is one. -/
def Found.source? (root : String) (found : Found) : Option SourceFile :=
  (String.fromUTF8? found.bytes).map fun content =>
    ⟨⟨"/".intercalate found.names⟩, found.names.foldl joinPath root, content⟩

/-- The snapshot of the tree at a path, which must be a directory. -/
def snapshot (scan : Scan) (root : String) (tree : Option FileTree) : Except Failure Snapshot :=
  match tree with
  | some (.directory parts) =>
      .ok ⟨root, (collect scan 0 (entries scan parts)).filterMap (Found.source? root)⟩
  | _ => .error (.invalidOperation (root ++ " is not a directory"))

/-- The working directory of a repository that exists already.  A remote one has to be acquired by
someone else. -/
def materializeLocal (isDirectory : String → Bool) : RepoRef → Except Failure String
  | .localPath path =>
      if isDirectory path then .ok path
      else .error (.io ("repository directory not found: " ++ path))
  | .remote uri =>
      .error (.invalidOperation
        ("remote repository " ++ uri ++ " requires an acquisition provider"))

end Ingest
end CodeSurvey
