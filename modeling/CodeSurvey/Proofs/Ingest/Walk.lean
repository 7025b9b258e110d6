import CodeSurvey.Ingest
import CodeSurvey.Proofs.FileTree
import Mathlib.Data.List.TakeWhile

/-!
# What a walk finds

A walk meets all files that are in no hidden or excluded directory, each of them once and in the
order of names, and finds those with a configured extension.  It ends early when it has found as
many as are allowed, which it checks after every entry; so it finds the first ones of those that it
would find otherwise.

## Main definitions

* `Ingest.HasExtension`, `Ingest.Eligible`: the files that are looked for.
* `Ingest.found`: what a walk finds that does not end early.

## Main results

* `Ingest.mem_found_iff`: a walk finds the eligible files of the tree.
* `Ingest.ascending_found`: it finds them in order, so each of them once.
* `Ingest.collect_entries`: a walk that ends early finds the first ones.
-/

namespace CodeSurvey

namespace Text

/-- Small letters make no text empty that was not. -/
theorem isEmpty_lowercase (text : String) : (lowercase text).isEmpty = text.isEmpty := by
  have hlower : lowerAfter [] text.toList = [] ↔ text.toList = [] := by
    cases text.toList with
    | nil => simp [lowerAfter]
    | cons c rest =>
        rw [lowerAfter]
        unfold lowerChar
        repeat' split
        all_goals simp
  rw [Bool.eq_iff_iff, String.isEmpty_iff, String.isEmpty_iff, lowercase, ← String.toList_inj,
    ← String.toList_inj, String.toList_ofList]
  exact hlower

end Text

namespace Ingest

open Settings (Scan)

/-! ## Names -/

/-- Whether a file name has an extension: what follows its last dot, if something does and something
stands before the dot. -/
def HasExtension (name ext : String) : Prop :=
  ext ≠ "" ∧ '.' ∉ ext.toList ∧ ∃ stem, stem ≠ [] ∧ name.toList = stem ++ '.' :: ext.toList

/-- Whether the name of a directory begins with a dot. -/
def Hidden (name : String) : Prop := ∃ rest, name.toList = '.' :: rest

/-- Whether a file is looked for: its extension in small letters is configured, and no directory on
the way to it is hidden or excluded. -/
structure Eligible (scan : Scan) (names : List String) : Prop where
  configured : ∃ name ext, names.getLast? = some name ∧ HasExtension name ext ∧
    Text.lowercase ext ∈ scan.extensions
  entered : ∀ directory ∈ names.dropLast,
    ¬ Hidden directory ∧ directory ∉ scan.excludedDirectories

/-- What stands behind the last dot is read up to it. -/
theorem takeWhile_behind_dot {stem tail : List Char} (htail : '.' ∉ tail) :
    ((stem ++ '.' :: tail).reverse.takeWhile (· != '.')).reverse = tail := by
  have hread : ∀ c ∈ tail.reverse, (c != '.') = true := by
    intro c hc
    rw [bne_iff_ne]
    rintro rfl
    exact htail (List.mem_reverse.1 hc)
  rw [List.reverse_append, List.reverse_cons, List.append_assoc,
    List.takeWhile_append_of_pos hread]
  simp

/-- The extension that is read off a name is what follows its last dot, behind a stem. -/
theorem extension?_eq_some_iff {name ext : String} :
    extension? name = some ext ↔
      '.' ∉ ext.toList ∧ ∃ stem, stem ≠ [] ∧ name.toList = stem ++ '.' :: ext.toList := by
  unfold extension?
  constructor
  · intro h
    by_cases hdot : '.' ∈ name.toList.reverse
    · obtain ⟨tail, stem, hsplit, htail⟩ := List.eq_append_cons_of_mem hdot
      have hname : name.toList = stem.reverse ++ '.' :: tail.reverse := by
        rw [← List.reverse_reverse name.toList, hsplit]
        simp
      have hbehind : '.' ∉ tail.reverse := mt List.mem_reverse.1 htail
      simp only [hname, takeWhile_behind_dot hbehind, Option.ite_none_right_eq_some,
        Option.some.injEq] at h
      obtain ⟨hlength, rfl⟩ := h
      rw [String.toList_ofList]
      refine ⟨hbehind, stem.reverse, ?_, hname⟩
      rintro hnil
      simp [hnil] at hlength
    · have hall : name.toList.reverse.takeWhile (· != '.') = name.toList.reverse := by
        rw [List.takeWhile_eq_self_iff]
        intro c hc
        rw [bne_iff_ne]
        rintro rfl
        exact hdot hc
      simp only [hall, List.reverse_reverse, Option.ite_none_right_eq_some] at h
      omega
  · rintro ⟨hbehind, stem, hstem, hname⟩
    have hlength := List.length_pos_iff.2 hstem
    simp only [hname, takeWhile_behind_dot hbehind, List.length_append, List.length_cons,
      String.ofList_toList]
    rw [if_pos (by omega)]

/-- A file is a source by its extension in small letters. -/
theorem isSource_iff {scan : Scan} {name : String} :
    isSource scan name = true ↔
      ∃ ext, HasExtension name ext ∧ Text.lowercase ext ∈ scan.extensions := by
  unfold isSource HasExtension
  constructor
  · intro h
    split at h
    · rename_i ext hext
      rw [Bool.and_eq_true, Text.isEmpty_lowercase, List.contains_iff_mem] at h
      refine ⟨ext, ⟨?_, extension?_eq_some_iff.1 hext⟩, h.2⟩
      rintro rfl
      simp at h
    · cases h
  · rintro ⟨ext, ⟨hne, hext⟩, hconfigured⟩
    rw [extension?_eq_some_iff.2 hext]
    simp [Text.isEmpty_lowercase, hconfigured, hne]

/-- A directory is left out if it is hidden or named in the settings. -/
theorem isExcluded_iff {scan : Scan} {name : String} :
    isExcluded scan name = true ↔ Hidden name ∨ name ∈ scan.excludedDirectories := by
  unfold isExcluded Hidden
  rw [Bool.or_eq_true, List.contains_iff_mem, beq_iff_eq, List.head?_eq_some_iff]

section Eligible

variable {scan : Scan} {name : String} {names : List String}

/-- A file at the top is looked for by its name alone. -/
theorem eligible_singleton_iff : Eligible scan [name] ↔ isSource scan name = true := by
  rw [isSource_iff]
  constructor
  · rintro ⟨⟨last, ext, hlast, hext, hconfigured⟩, -⟩
    cases hlast
    exact ⟨ext, hext, hconfigured⟩
  · rintro ⟨ext, hext, hconfigured⟩
    exact ⟨⟨name, ext, rfl, hext, hconfigured⟩, by simp⟩

/-- A file further down is looked for if its directory is entered. -/
theorem eligible_cons_iff (hne : names ≠ []) :
    Eligible scan (name :: names) ↔ isExcluded scan name = false ∧ Eligible scan names := by
  rw [Bool.eq_false_iff, Ne, isExcluded_iff, not_or]
  constructor
  · rintro ⟨hconfigured, hentered⟩
    rw [List.getLast?_cons_of_ne_nil hne] at hconfigured
    rw [List.dropLast_cons_of_ne_nil hne, List.forall_mem_cons] at hentered
    exact ⟨hentered.1, hconfigured, hentered.2⟩
  · rintro ⟨hopen, hconfigured, hentered⟩
    refine ⟨?_, ?_⟩
    · rwa [List.getLast?_cons_of_ne_nil hne]
    · rw [List.dropLast_cons_of_ne_nil hne, List.forall_mem_cons]
      exact ⟨hopen, hentered⟩

end Eligible

/-! ## Without an early end -/

/-- The source files that a walk finds in a part of a directory. -/
def foundIn (scan : Scan) (above : List String) (name : String) (tree : FileTree) : List Found :=
  (entriesIn scan above name tree).filterMap (Entry.found? scan)

/-- The source files that a walk finds in parts of a directory. -/
def foundOf (scan : Scan) (above : List String) (parts : List (String × FileTree)) : List Found :=
  (entriesOf scan above parts).filterMap (Entry.found? scan)

/-- The source files that a walk finds from a directory with these parts on, if it does not end
early. -/
def found (scan : Scan) (parts : List (String × FileTree)) : List Found :=
  (entries scan parts).filterMap (Entry.found? scan)

section Found

variable {scan : Scan} {above : List String} {name : String} {tree : FileTree}
  {parts : List (String × FileTree)} {file : Found}

/-- From the top a walk goes through the parts in the order of their names. -/
theorem found_eq (scan : Scan) (parts : List (String × FileTree)) :
    found scan parts = foundOf scan [] (FileTree.partsInNameOrder parts) :=
  rfl

/-- The findings in several parts are those of each part, one after the other. -/
theorem foundOf_eq_flatMap (scan : Scan) (above : List String)
    (parts : List (String × FileTree)) :
    foundOf scan above parts = parts.flatMap fun part => foundIn scan above part.1 part.2 := by
  induction parts with
  | nil => rfl
  | cons part rest ih =>
      rw [List.flatMap_cons, ← ih, foundOf, entriesOf, List.filterMap_append]
      rfl

/-- A file is found if its name is that of a source. -/
theorem foundIn_file (bytes : ByteArray) :
    foundIn scan above name (.file bytes) =
      if isSource scan name then [⟨above ++ [name], bytes⟩] else [] := by
  rw [foundIn, entriesIn, List.filterMap_cons, Entry.found?]
  split <;> simp_all

/-- In a directory nothing is found if it is left out, and else what is in its parts. -/
theorem foundIn_directory (parts : List (String × FileTree)) :
    foundIn scan above name (.directory parts) =
      if isExcluded scan name then [] else foundOf scan (above ++ [name]) parts := by
  rw [foundIn, entriesIn]
  split
  · rfl
  · rfl

/-- A file is found in several parts if it is found in one of them. -/
theorem mem_foundOf_iff :
    file ∈ foundOf scan above parts ↔
      ∃ part ∈ parts, file ∈ foundIn scan above part.1 part.2 := by
  rw [foundOf_eq_flatMap, List.mem_flatMap]

/-- In a part of a directory a walk finds the eligible files of its tree. -/
theorem mem_foundIn_iff :
    file ∈ foundIn scan above name tree ↔
      ∃ rest, file.names = above ++ name :: rest ∧ tree.FileAt rest file.bytes ∧
        Eligible scan (name :: rest) := by
  induction tree generalizing above name with
  | file bytes =>
      rcases file with ⟨names, content⟩
      rw [foundIn_file, List.mem_ite_nil_right, List.mem_singleton, Found.mk.injEq]
      simp only [FileTree.fileAt_file_iff]
      constructor
      · rintro ⟨hsource, rfl, rfl⟩
        exact ⟨[], rfl, ⟨rfl, rfl⟩, eligible_singleton_iff.2 hsource⟩
      · rintro ⟨_, hnames, ⟨rfl, hbytes⟩, heligible⟩
        exact ⟨eligible_singleton_iff.1 heligible, hnames, hbytes⟩
  | directory parts ih =>
      rw [foundIn_directory]
      by_cases hexcluded : isExcluded scan name = true
      · rw [if_pos hexcluded]
        simp only [List.not_mem_nil, false_iff]
        rintro ⟨rest, -, hfile, heligible⟩
        obtain ⟨part, -, below, rfl, -⟩ := FileTree.fileAt_directory_iff.1 hfile
        have hopen := ((eligible_cons_iff (List.cons_ne_nil _ _)).1 heligible).1
        rw [hexcluded] at hopen
        cases hopen
      · rw [if_neg hexcluded, mem_foundOf_iff]
        constructor
        · rintro ⟨part, hpart, hfound⟩
          obtain ⟨rest, hnames, hfile, heligible⟩ := (ih part hpart).1 hfound
          have hbelow : (FileTree.directory parts).FileAt (part.1 :: rest) file.bytes :=
            FileTree.fileAt_directory_iff.2 ⟨part, hpart, rest, rfl, hfile⟩
          refine ⟨part.1 :: rest, ?_, hbelow, ?_⟩
          · rw [hnames, List.append_assoc, List.singleton_append]
          · rw [eligible_cons_iff (List.cons_ne_nil _ _)]
            exact ⟨Bool.eq_false_iff.2 hexcluded, heligible⟩
        · rintro ⟨rest, hnames, hfile, heligible⟩
          obtain ⟨part, hpart, below, rfl, hbelow⟩ := FileTree.fileAt_directory_iff.1 hfile
          have hrest := ((eligible_cons_iff (List.cons_ne_nil _ _)).1 heligible).2
          refine ⟨part, hpart, (ih part hpart).2 ⟨below, ?_, hbelow, hrest⟩⟩
          rw [hnames, List.append_assoc, List.singleton_append]

/-- A walk finds the eligible files of the tree. -/
theorem mem_found_iff :
    file ∈ found scan parts ↔
      (FileTree.directory parts).FileAt file.names file.bytes ∧ Eligible scan file.names := by
  rw [found_eq, mem_foundOf_iff, ← FileTree.fileAt_inNameOrder_iff, FileTree.inNameOrder,
    FileTree.fileAt_directory_iff]
  constructor
  · rintro ⟨part, hpart, hfound⟩
    obtain ⟨rest, hnames, hfile, heligible⟩ := mem_foundIn_iff.1 hfound
    rw [List.nil_append] at hnames
    rw [hnames]
    exact ⟨⟨part, hpart, rest, rfl, hfile⟩, heligible⟩
  · rintro ⟨⟨part, hpart, rest, hnames, hfile⟩, heligible⟩
    rw [hnames] at heligible
    exact ⟨part, hpart, mem_foundIn_iff.2 ⟨rest, hnames, hfile, heligible⟩⟩

/-! ## The order of a walk -/

/-- Files in different parts of a directory are found in the order of the names of these. -/
theorem ascending_foundOf
    (hnames : (parts.map Prod.fst).Pairwise fun first second => first < second)
    (hparts : ∀ part ∈ parts,
      (foundIn scan above part.1 part.2).Pairwise fun first second => first.names < second.names) :
    (foundOf scan above parts).Pairwise fun first second => first.names < second.names := by
  rw [foundOf_eq_flatMap, List.pairwise_flatMap]
  refine ⟨hparts, (List.pairwise_map.1 hnames).imp ?_⟩
  intro first second hlt file hfile other hother
  obtain ⟨rest, hnames, -⟩ := mem_foundIn_iff.1 hfile
  obtain ⟨otherRest, hotherNames, -⟩ := mem_foundIn_iff.1 hother
  rw [hnames, hotherNames]
  exact List.append_left_lt (List.cons_lt_cons_iff.2 (.inl hlt))

/-- In an ascending tree files are found in ascending order of their paths. -/
theorem ascending_foundIn (h : tree.Ascending) :
    (foundIn scan above name tree).Pairwise fun first second => first.names < second.names := by
  induction h generalizing above name with
  | file bytes =>
      rw [foundIn_file]
      split
      · exact List.pairwise_singleton _ _
      · exact .nil
  | directory hnames hparts ih =>
      rw [foundIn_directory]
      split
      · exact .nil
      · exact ascending_foundOf hnames fun part hpart => ih part hpart

/-- A walk finds files in the order of their names, taken one by one from the root on. -/
theorem ascending_found (h : (FileTree.directory parts).WellFormed) :
    (found scan parts).Pairwise fun first second => first.names < second.names := by
  rw [found_eq]
  cases h.ascending with
  | directory hnames hparts =>
      exact ascending_foundOf hnames fun part hpart => ascending_foundIn (hparts part hpart)

/-- So it finds no file twice. -/
theorem nodup_found (h : (FileTree.directory parts).WellFormed) :
    ((found scan parts).map Found.names).Nodup := by
  refine List.pairwise_map.2 ((ascending_found h).imp ?_)
  intro first second hlt hsame
  rw [hsame] at hlt
  exact List.lt_irrefl _ hlt

end Found

/-! ## The early end -/

section Early

variable {scan : Scan}

/-- Every file that is found takes one of the places that are left. -/
theorem collect_eq_take {count : Nat} (hcount : count < scan.maxFiles) (entries : List Entry) :
    collect scan count entries =
      (entries.filterMap (Entry.found? scan)).take (scan.maxFiles - count) := by
  induction entries generalizing count with
  | nil => simp [collect]
  | cons entry rest ih =>
      rw [collect, List.filterMap_cons]
      cases entry.found? scan with
      | none => simp only [if_neg (Nat.not_le.2 hcount), ih hcount]
      | some file =>
          have hleft : scan.maxFiles - count = scan.maxFiles - (count + 1) + 1 := by
            omega
          simp only [hleft, List.take_succ_cons]
          by_cases hlast : scan.maxFiles ≤ count + 1
          · have hnone : scan.maxFiles - (count + 1) = 0 := by
              omega
            rw [if_pos hlast, hnone, List.take_zero]
          · rw [if_neg hlast, ih (Nat.not_le.1 hlast)]

/-- A walk finds the first of the files that it would find if it did not end early.  It ends after
its first entry, which is a directory, if no file is allowed. -/
theorem collect_entries (parts : List (String × FileTree)) :
    collect scan 0 (entries scan parts) = (found scan parts).take scan.maxFiles := by
  by_cases hnone : scan.maxFiles = 0
  · rw [hnone, List.take_zero, entries, collect]
    simp [Entry.found?, hnone]
  · rw [collect_eq_take (Nat.pos_of_ne_zero hnone)]
    rfl

end Early

end Ingest
end CodeSurvey
