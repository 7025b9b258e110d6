import CodeSurvey.FileTree
import Mathlib.Data.List.Nodup

/-!
# Files of a tree

A file of a tree is found by following names from the root, one for each directory on the way.  In a
tree as a file system has it the parts of a directory have different names, and no name contains a
slash.  Putting the parts of every directory in order does not change which files there are and how
they are found.

## Main definitions

* `FileTree.FileAt`: the file at the end of a list of names.
* `FileTree.WellFormed`: the trees that a file system has.
* `FileTree.Ascending`: trees in the order of names.

## Main results

* `FileTree.fileAt_inNameOrder_iff`, `FileTree.WellFormed.ascending`: the tree in the order of
  names.
-/

namespace CodeSurvey

namespace Text

/-- Bytes are read as the text of which they are the encoding. -/
theorem fromUTF8?_eq_some_iff {bytes : ByteArray} {text : String} :
    String.fromUTF8? bytes = some text ↔ text.toUTF8 = bytes := by
  unfold String.fromUTF8?
  constructor
  · intro h
    split at h
    · cases h
      rfl
    · cases h
  · rintro rfl
    rw [String.toUTF8_eq_toByteArray, dif_pos text.isValidUTF8]
    rfl

end Text

namespace FileTree

variable {parts : List (String × FileTree)} {name : String} {tree : FileTree}
  {names : List String} {bytes : ByteArray}

/-- What holds of files, and of a directory if it holds of all its parts, holds of all trees. -/
@[induction_eliminator]
theorem induction {motive : FileTree → Prop} (file : ∀ bytes, motive (.file bytes))
    (directory : ∀ parts, (∀ part ∈ parts, motive part.2) → motive (.directory parts))
    (tree : FileTree) : motive tree := by
  apply @FileTree.rec motive (fun parts => ∀ part ∈ parts, motive part.2)
    (fun part => motive part.2)
  · exact file
  · exact directory
  · simp
  · intro part parts hpart hparts
    exact List.forall_mem_cons.2 ⟨hpart, hparts⟩
  · intro name tree htree
    exact htree

/-! ## Files -/

/-- Whether a tree has a file with these bytes at the end of a list of names. -/
inductive FileAt : FileTree → List String → ByteArray → Prop where
  | here (bytes : ByteArray) : FileAt (.file bytes) [] bytes
  | inPart {parts : List (String × FileTree)} {name : String} {tree : FileTree}
      {names : List String} {bytes : ByteArray} (hpart : (name, tree) ∈ parts)
      (hfile : FileAt tree names bytes) : FileAt (.directory parts) (name :: names) bytes

theorem fileAt_file_iff {other : ByteArray} :
    (FileTree.file bytes).FileAt names other ↔ names = [] ∧ other = bytes := by
  constructor
  · intro h
    cases h
    exact ⟨rfl, rfl⟩
  · rintro ⟨rfl, rfl⟩
    exact .here other

/-- A file of a directory is in one of its parts. -/
theorem fileAt_directory_iff :
    (FileTree.directory parts).FileAt names bytes ↔
      ∃ part ∈ parts, ∃ rest, names = part.1 :: rest ∧ part.2.FileAt rest bytes := by
  constructor
  · intro h
    cases h with
    | inPart hpart hfile => exact ⟨_, hpart, _, rfl, hfile⟩
  · rintro ⟨part, hpart, rest, rfl, hfile⟩
    exact .inPart hpart hfile

/-- Whether a tree can be that of a file system: the parts of every directory have different names,
and no name contains a slash. -/
inductive WellFormed : FileTree → Prop where
  | file (bytes : ByteArray) : WellFormed (.file bytes)
  | directory {parts : List (String × FileTree)} (hdistinct : (parts.map Prod.fst).Nodup)
      (hnames : ∀ part ∈ parts, '/' ∉ part.1.toList) (hparts : ∀ part ∈ parts, WellFormed part.2) :
      WellFormed (.directory parts)

/-- No name on the way to a file contains a slash. -/
theorem WellFormed.slash_not_mem (h : tree.WellFormed) (hfile : tree.FileAt names bytes) :
    ∀ name ∈ names, '/' ∉ name.toList := by
  induction hfile with
  | here bytes => simp
  | inPart hpart hfile ih =>
      cases h with
      | directory hdistinct hnames hparts =>
          exact List.forall_mem_cons.2 ⟨hnames _ hpart, ih (hparts _ hpart)⟩

/-! ## The order of names -/

/-- A part with its tree in the order of names. -/
def partInNameOrder (part : String × FileTree) : String × FileTree := (part.1, part.2.inNameOrder)

/-- Inserting a part adds it to the others. -/
theorem insertPart_perm (name : String) (tree : FileTree) (parts : List (String × FileTree)) :
    (insertPart name tree parts).Perm ((name, tree) :: parts) := by
  induction parts with
  | nil => exact .refl _
  | cons part rest ih =>
      rw [insertPart]
      split
      · exact .refl _
      · exact (ih.cons part).trans (.swap ..)

/-- Putting parts in the order of their names loses none of them. -/
theorem partsInNameOrder_perm (parts : List (String × FileTree)) :
    (partsInNameOrder parts).Perm (parts.map partInNameOrder) := by
  induction parts with
  | nil => exact .refl _
  | cons part rest ih => exact (insertPart_perm _ _ _).trans (ih.cons _)

/-- A tree has the same files in any order. -/
theorem fileAt_inNameOrder_iff : tree.inNameOrder.FileAt names bytes ↔ tree.FileAt names bytes := by
  induction tree generalizing names with
  | file bytes => rfl
  | directory parts ih =>
      rw [inNameOrder, fileAt_directory_iff, fileAt_directory_iff]
      simp only [(partsInNameOrder_perm parts).mem_iff, List.mem_map]
      constructor
      · rintro ⟨_, ⟨part, hpart, rfl⟩, rest, hnames, hfile⟩
        exact ⟨part, hpart, rest, hnames, (ih part hpart).1 hfile⟩
      · rintro ⟨part, hpart, rest, hnames, hfile⟩
        exact ⟨_, ⟨part, hpart, rfl⟩, rest, hnames, (ih part hpart).2 hfile⟩

/-- Whether the parts of every directory stand in the strict order of their names. -/
inductive Ascending : FileTree → Prop where
  | file (bytes : ByteArray) : Ascending (.file bytes)
  | directory {parts : List (String × FileTree)}
      (hnames : (parts.map Prod.fst).Pairwise fun first second => first < second)
      (hparts : ∀ part ∈ parts, Ascending part.2) : Ascending (.directory parts)

/-- A part with a new name takes its place in the order. -/
theorem insertPart_ascending (hnew : name ∉ parts.map Prod.fst)
    (h : (parts.map Prod.fst).Pairwise fun first second => first < second) (tree : FileTree) :
    ((insertPart name tree parts).map Prod.fst).Pairwise fun first second => first < second := by
  induction parts with
  | nil => simp [insertPart]
  | cons part rest ih =>
      rcases part with ⟨other, old⟩
      rw [List.map_cons, List.mem_cons, not_or] at hnew
      rw [List.map_cons, List.pairwise_cons] at h
      rw [insertPart]
      split
      · rename_i hlt
        refine List.pairwise_cons.2 ⟨List.forall_mem_cons.2 ⟨hlt, ?_⟩, List.pairwise_cons.2 h⟩
        intro later hlater
        exact String.lt_trans hlt (h.1 later hlater)
      · rename_i hnot
        have hlt : other < name := Std.lt_of_le_of_ne (String.not_lt.1 hnot) (Ne.symm hnew.1)
        refine List.pairwise_cons.2 ⟨?_, ih hnew.2 h.2⟩
        intro later hlater
        rw [((insertPart_perm name tree rest).map Prod.fst).mem_iff, List.map_cons,
          List.mem_cons] at hlater
        rcases hlater with rfl | hlater
        · exact hlt
        · exact h.1 later hlater

/-- Parts with different names are put in strict order. -/
theorem partsInNameOrder_ascending (h : (parts.map Prod.fst).Nodup) :
    ((partsInNameOrder parts).map Prod.fst).Pairwise fun first second => first < second := by
  induction parts with
  | nil => exact .nil
  | cons part rest ih =>
      rw [List.map_cons, List.nodup_cons] at h
      have hnames : ((partsInNameOrder rest).map Prod.fst).Perm (rest.map Prod.fst) := by
        have hperm := (partsInNameOrder_perm rest).map Prod.fst
        rw [List.map_map] at hperm
        exact hperm
      have hnew : part.1 ∉ (partsInNameOrder rest).map Prod.fst := by
        rw [hnames.mem_iff]
        exact h.1
      exact insertPart_ascending hnew (ih h.2) _

/-- A tree of a file system can be put in the strict order of its names. -/
theorem WellFormed.ascending (h : tree.WellFormed) : tree.inNameOrder.Ascending := by
  induction h with
  | file bytes => exact .file bytes
  | directory hdistinct hnames hparts ih =>
      refine .directory (partsInNameOrder_ascending hdistinct) ?_
      simp only [(partsInNameOrder_perm _).mem_iff, List.forall_mem_map]
      exact ih

end FileTree
end CodeSurvey
