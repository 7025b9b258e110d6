/-!
# File trees

A file tree is a file with its bytes, or a directory with its named parts.  Paths are resolved the
way a file system does it: empty parts and single dots stay in a directory, double dots lead to
the directory above, which for the root is the root, and nothing leads on from a file.

## Main definitions

* `FileTree.resolve?`: the tree at a path.
* `FileTree.createDirectory?`, `FileTree.write?`: trees with one more directory or file.
* `FileTree.inNameOrder`: the tree with the parts of every directory in the order of their names.
-/

namespace CodeSurvey

/-- A file or a directory. -/
inductive FileTree where
  | file (bytes : ByteArray)
  | directory (parts : List (String × FileTree))

namespace FileTree

/-- The directory without parts. -/
def empty : FileTree := .directory []

/-- Whether the tree is a directory. -/
def isDirectory : FileTree → Bool
  | .directory _ => true
  | .file _ => false

/-- The part of a directory with a name. -/
def part? (name : String) : List (String × FileTree) → Option FileTree
  | [] => none
  | (other, tree) :: rest => if other = name then some tree else part? name rest

/-- The tree that a list of steps leads to, with the directories above the current tree. -/
def follow? : (above : List FileTree) → (steps : List String) → FileTree → Option FileTree
  | _, [], tree => some tree
  | _, _ :: _, .file _ => none
  | above, step :: steps, .directory parts =>
      if step = "" ∨ step = "." then follow? above steps (.directory parts)
      else if step = ".." then
        match above with
        | [] => follow? [] steps (.directory parts)
        | parent :: above => follow? above steps parent
      else
        match part? step parts with
        | some tree => follow? (.directory parts :: above) steps tree
        | none => none

/-- The parts of a list of characters between slashes, the first of which has begun with the given
characters in reverse. -/
def stepsFrom : (current : List Char) → List Char → List String
  | current, [] => [String.ofList current.reverse]
  | current, c :: cs =>
      if c = '/' then String.ofList current.reverse :: stepsFrom [] cs
      else stepsFrom (c :: current) cs

/-- The steps of a path: its parts between slashes. -/
def steps (path : String) : List String := stepsFrom [] path.toList

/-- How many bytes the name of a part may have. -/
def maxNameBytes : Nat := 255

/-- How many bytes a path may have. -/
def maxPathBytes : Nat := 4095

/-- Whether a text can be a path: it has no null character, and neither the path nor one of its steps
is too long. -/
def isPath (path : String) : Bool :=
  !path.toList.contains '\x00' && decide (path.utf8ByteSize ≤ maxPathBytes) &&
    (steps path).all fun step => decide (step.utf8ByteSize ≤ maxNameBytes)

/-- The tree at a path below a tree. -/
def resolve? (tree : FileTree) (path : String) : Option FileTree :=
  if isPath path then follow? [] (steps path) tree else none

/-! ## Building trees -/

/-- The parts of a directory with the part of one name replaced or added. -/
def replacePart (name : String) (tree : FileTree) :
    List (String × FileTree) → List (String × FileTree)
  | [] => [(name, tree)]
  | (other, old) :: rest =>
      if other = name then (name, tree) :: rest else (other, old) :: replacePart name tree rest

/-- The tree with another tree at the end of a list of names.  Missing directories are created,
and a file on the way gives way to a directory. -/
def place (new : FileTree) : (names : List String) → FileTree → FileTree
  | [], _ => new
  | name :: names, .file _ => .directory [(name, place new names empty)]
  | name :: names, .directory parts =>
      .directory (replacePart name (place new names ((part? name parts).getD empty)) parts)

/-- The names that lead to a directory after one more step. -/
def advance (names : List String) (step : String) : List String :=
  if step = "" ∨ step = "." then names
  else if step = ".." then names.dropLast
  else names ++ [step]

/-- The tree with a directory after each of the steps that go on from a directory, and the names that
lead to the last one.  Directories that are there already are left alone; a file is in the way. -/
def createAlong :
    (names : List String) → (steps : List String) → FileTree → Option (List String × FileTree)
  | names, [], tree => some (names, tree)
  | names, step :: steps, tree =>
      let names := advance names step
      match follow? [] names tree with
      | some (.directory _) => createAlong names steps tree
      | some (.file _) => none
      | none => createAlong names steps (place empty names tree)

/-- The tree with a directory at a path and on the way to it. -/
def createDirectory? (tree : FileTree) (path : String) : Option FileTree :=
  if isPath path then (createAlong [] (steps path) tree).map (·.2) else none

/-- Whether a step leads to a part of a directory by its name. -/
def isName (step : String) : Bool := step != "" && step != "." && step != ".."

/-- The tree with a file at a path and with directories on the way to it.  The path ends in the name
of the file, which is not the name of a directory. -/
def write? (tree : FileTree) (path : String) (bytes : ByteArray) : Option FileTree :=
  match (steps path).reverse with
  | [] => none
  | name :: above =>
      if isPath path && isName name then do
        let (names, tree) ← createAlong [] above.reverse tree
        match follow? [] (names ++ [name]) tree with
        | some (.directory _) => none
        | _ => some (place (.file bytes) (names ++ [name]) tree)
      else none

/-! ## Order of names -/

/-- Adds a part to parts in the order of their names, behind those with the same name. -/
def insertPart (name : String) (tree : FileTree) :
    List (String × FileTree) → List (String × FileTree)
  | [] => [(name, tree)]
  | (other, old) :: rest =>
      if name < other then (name, tree) :: (other, old) :: rest
      else (other, old) :: insertPart name tree rest

mutual

/-- The tree with the parts of every directory in the order of their names. -/
def inNameOrder : FileTree → FileTree
  | .file bytes => .file bytes
  | .directory parts => .directory (partsInNameOrder parts)

/-- Parts in the order of their names, each of them in that order too. -/
def partsInNameOrder : List (String × FileTree) → List (String × FileTree)
  | [] => []
  | (name, tree) :: rest => insertPart name (inNameOrder tree) (partsInNameOrder rest)

end

end FileTree

end CodeSurvey
