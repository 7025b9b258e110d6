import CodeSurvey.Proofs.Ingest.Walk
import Mathlib.Data.Set.Card

/-!
# The snapshot of a tree

A snapshot holds the files that a walk has found and that are texts.  Their identities are the names
that lead to them, put together with slashes, which no name contains, so that different files have
different identities.  A snapshot of fewer files is the beginning of one of more, and if the walk
does not end early no eligible file is missed.

## Main results

* `Ingest.intercalate_inj`: an identity tells the names that lead to the file.
* `Ingest.encard_eligibleFiles`: how many files are eligible.
* `Ingest.snapshot_of_tree`: the snapshots of a tree.
-/

namespace CodeSurvey

namespace Ingest

open Settings (Scan)

/-! ## Identities -/

/-- Names without slashes are told apart by what they are put together to. -/
theorem intercalate_inj {names others : List String} (hne : names ≠ []) (hothers : others ≠ [])
    (hnames : ∀ name ∈ names, '/' ∉ name.toList) (hother : ∀ name ∈ others, '/' ∉ name.toList)
    (h : "/".intercalate names = "/".intercalate others) : names = others := by
  have hsplit : ∀ {names : List String}, names ≠ [] → (∀ name ∈ names, '/' ∉ name.toList) →
      ("/".intercalate names).toList.splitOn '/' = names.map String.toList := by
    intro names hne hnames
    rw [String.toList_intercalate]
    apply List.splitOn_intercalate
    · simpa using hnames
    · simpa using hne
  have hmap : names.map String.toList = others.map String.toList := by
    rw [← hsplit hne hnames, ← hsplit hothers hother, h]
  exact List.map_injective_iff.2 (fun _ _ => String.toList_inj.1) hmap

section Snapshot

variable {scan : Scan} {root : String} {parts : List (String × FileTree)} {file : Found}
  {source : SourceFile}

/-- Whether a file of a snapshot is the eligible file at the end of these names, with its text. -/
structure IsFileOf (scan : Scan) (tree : FileTree) (names : List String) (source : SourceFile) :
    Prop where
  id_eq : source.id.text = "/".intercalate names
  content : tree.FileAt names source.content.toUTF8
  eligible : Eligible scan names

/-- Whether the files are all eligible ones of a tree, in the order of their names. -/
structure Lists (scan : Scan) (tree : FileTree) (files : List Found) : Prop where
  mem_iff : ∀ file, file ∈ files ↔ tree.FileAt file.names file.bytes ∧ Eligible scan file.names
  ascending : files.Pairwise fun first second => first.names < second.names

/-- The eligible files of a tree, by the names that lead to them. -/
def eligibleFiles (scan : Scan) (tree : FileTree) : Set (List String) :=
  {names | ∃ bytes, tree.FileAt names bytes ∧ Eligible scan names}

/-- There is at least one name on the way to an eligible file. -/
theorem Eligible.ne_nil {names : List String} (h : Eligible scan names) : names ≠ [] := by
  obtain ⟨name, _, hlast, -⟩ := h.configured
  rintro rfl
  cases hlast

/-- A found file becomes a source file if its bytes are those of a text. -/
theorem source?_eq_some_iff :
    file.source? root = some source ↔
      source.content.toUTF8 = file.bytes ∧ source.id = ⟨"/".intercalate file.names⟩ ∧
        source.path = file.names.foldl joinPath root := by
  unfold Found.source?
  rw [Option.map_eq_some_iff]
  constructor
  · rintro ⟨content, hcontent, rfl⟩
    exact ⟨Text.fromUTF8?_eq_some_iff.1 hcontent, rfl, rfl⟩
  · rintro ⟨hcontent, hid, hpath⟩
    refine ⟨source.content, Text.fromUTF8?_eq_some_iff.2 hcontent, ?_⟩
    rcases source with ⟨id, path, content⟩
    subst hid hpath
    rfl

/-- A source file that comes of a found file is the eligible one at the end of its names. -/
theorem isFileOf_of_source? (hfile : file ∈ found scan parts)
    (hsource : file.source? root = some source) :
    IsFileOf scan (.directory parts) file.names source := by
  obtain ⟨hat, heligible⟩ := mem_found_iff.1 hfile
  obtain ⟨hcontent, hid, -⟩ := source?_eq_some_iff.1 hsource
  refine ⟨congrArg EntityId.text hid, ?_, heligible⟩
  rwa [hcontent]

/-- Found files have different identities. -/
theorem nodup_ids (h : (FileTree.directory parts).WellFormed) :
    ((found scan parts).map fun file => "/".intercalate file.names).Nodup := by
  have hnames : ∀ names ∈ (found scan parts).map Found.names,
      names ≠ [] ∧ ∀ name ∈ names, '/' ∉ name.toList := by
    intro names hmem
    obtain ⟨file, hfile, rfl⟩ := List.mem_map.1 hmem
    obtain ⟨hat, heligible⟩ := mem_found_iff.1 hfile
    exact ⟨heligible.ne_nil, h.slash_not_mem hat⟩
  have hjoined : (((found scan parts).map Found.names).map "/".intercalate).Nodup := by
    apply List.Nodup.map_on
    · intro names hmem others hother hsame
      exact intercalate_inj (hnames _ hmem).1 (hnames _ hother).1 (hnames _ hmem).2
        (hnames _ hother).2 hsame
    · exact nodup_found h
  rwa [List.map_map] at hjoined

/-- The identities of the files that are texts are among those of all. -/
theorem ids_sublist (files : List Found) :
    ((files.filterMap (Found.source? root)).map fun source => source.id.text).Sublist
      (files.map fun file => "/".intercalate file.names) := by
  induction files with
  | nil => exact .slnil
  | cons file rest ih =>
      rw [List.filterMap_cons]
      cases hsource : file.source? root with
      | none => exact ih.cons _
      | some source =>
          rw [List.map_cons, (source?_eq_some_iff.1 hsource).2.1]
          exact ih.cons_cons _

/-! ## How many files there are -/

/-- What there is to be found does not depend on how many files may be taken. -/
theorem foundIn_maxFiles (limit : Nat) (above : List String) (name : String) (tree : FileTree) :
    foundIn { scan with maxFiles := limit } above name tree = foundIn scan above name tree := by
  induction tree generalizing above name with
  | file bytes =>
      rw [foundIn_file, foundIn_file]
      rfl
  | directory parts ih =>
      have hparts : foundOf { scan with maxFiles := limit } (above ++ [name]) parts =
          foundOf scan (above ++ [name]) parts := by
        rw [foundOf_eq_flatMap, foundOf_eq_flatMap]
        exact List.flatMap_congr fun part hpart => ih part hpart _ _
      rw [foundIn_directory, foundIn_directory, hparts]
      rfl

/-- What a walk would find does not depend on how much it may find. -/
theorem found_maxFiles (limit : Nat) (parts : List (String × FileTree)) :
    found { scan with maxFiles := limit } parts = found scan parts := by
  rw [found_eq, found_eq, foundOf_eq_flatMap, foundOf_eq_flatMap]
  exact List.flatMap_congr fun part _ => foundIn_maxFiles limit _ _ _

/-- There are as many eligible files as a walk finds that does not end early. -/
theorem encard_eligibleFiles (h : (FileTree.directory parts).WellFormed) :
    (eligibleFiles scan (.directory parts)).encard = (found scan parts).length := by
  have hset : eligibleFiles scan (.directory parts) =
      ((found scan parts).map Found.names).toFinset := by
    rw [List.coe_toFinset]
    ext names
    simp only [eligibleFiles, Set.mem_ofPred_eq, List.mem_map]
    constructor
    · rintro ⟨bytes, hat, heligible⟩
      exact ⟨⟨names, bytes⟩, mem_found_iff.2 ⟨hat, heligible⟩, rfl⟩
    · rintro ⟨file, hfile, rfl⟩
      exact ⟨file.bytes, mem_found_iff.1 hfile⟩
  rw [hset, Set.encard_coe_eq_coe_finsetCard, List.toFinset_card_of_nodup (nodup_found h),
    List.length_map]

/-! ## Snapshots -/

/-- A snapshot takes the first files that are found, as many as it may, and keeps those that are
texts. -/
theorem snapshot_eq (limit : Nat) :
    snapshot { scan with maxFiles := limit } root (some (.directory parts)) =
      .ok ⟨root, ((found scan parts).take limit).filterMap (Found.source? root)⟩ := by
  rw [snapshot, collect_entries, found_maxFiles]

/-- The snapshots of a tree that hold at most so many files.  They hold those of the first so many
eligible files that are texts; so the smaller one is the beginning of the larger one.  Its
identities are different, and are those of eligible files, with their texts.  If there are not more
eligible files than it may hold, it holds all that are texts. -/
theorem snapshot_of_tree {few many : Nat} (hle : few ≤ many)
    (h : (FileTree.directory parts).WellFormed) :
    ∃ smaller larger files,
      snapshot { scan with maxFiles := few } root (some (.directory parts)) = .ok smaller ∧
      snapshot { scan with maxFiles := many } root (some (.directory parts)) = .ok larger ∧
      Lists scan (.directory parts) files ∧
      smaller.files = (files.take few).filterMap (Found.source? root) ∧
      larger.files = (files.take many).filterMap (Found.source? root) ∧
      smaller.files.length ≤ few ∧ smaller.files <+: larger.files ∧
      (smaller.files.map fun source => source.id.text).Nodup ∧
      (∀ source ∈ smaller.files, ∃ names, IsFileOf scan (.directory parts) names source) ∧
      ((eligibleFiles scan (.directory parts)).encard ≤ few →
        ∀ names (text : String), (FileTree.directory parts).FileAt names text.toUTF8 →
          Eligible scan names →
          ∃ source ∈ smaller.files, source.id.text = "/".intercalate names ∧
            source.content = text) := by
  refine ⟨_, _, found scan parts, snapshot_eq few, snapshot_eq many,
    ⟨fun _ => mem_found_iff, ascending_found h⟩, rfl, rfl, ?_, ?_, ?_, ?_, ?_⟩
  · exact (List.length_filterMap_le _ _).trans (List.length_take_le _ _)
  · exact (List.take_prefix_take_left hle).filterMap _
  · have hids := (List.take_sublist few (found scan parts)).map fun file =>
      "/".intercalate file.names
    exact (nodup_ids h).sublist ((ids_sublist _).trans hids)
  · intro source hsource
    obtain ⟨file, hfile, hread⟩ := List.mem_filterMap.1 hsource
    exact ⟨file.names, isFileOf_of_source? (List.mem_of_mem_take hfile) hread⟩
  · intro hcount names text hat heligible
    rw [encard_eligibleFiles h, Nat.cast_le] at hcount
    have hfound : ⟨names, text.toUTF8⟩ ∈ found scan parts := mem_found_iff.2 ⟨hat, heligible⟩
    rw [List.take_of_length_le hcount]
    refine ⟨⟨⟨"/".intercalate names⟩, names.foldl joinPath root, text⟩, ?_, rfl, rfl⟩
    exact List.mem_filterMap.2 ⟨_, hfound, source?_eq_some_iff.2 ⟨rfl, rfl, rfl⟩⟩

end Snapshot

end Ingest

/-! ## A small tree -/

namespace SmallTree

def source : List (String × FileTree) := [
  ("b.PY", .file "b".toUTF8), ("a.py", .file "a".toUTF8), ("notes.txt", .file "c".toUTF8)]

/-- There is a file in a hidden directory, one in an excluded directory, and one that is no text. -/
def parts : List (String × FileTree) := [
  ("src", .directory source), (".git", .directory [("hook.py", .file "d".toUTF8)]),
  ("build", .directory [("made.py", .file "e".toUTF8)]), ("bytes.py", .file ⟨#[0xff]⟩)]

def tree : FileTree := .directory parts

def scan : Settings.Scan := ⟨0, ["py"], ["build"]⟩

theorem wellFormed : tree.WellFormed := by
  have hsource : (FileTree.directory source).WellFormed := by
    refine .directory (by decide) (by decide) ?_
    simp only [source, List.forall_mem_cons]
    exact ⟨.file _, .file _, .file _, by simp⟩
  have hsingle : ∀ name bytes, '/' ∉ name.toList →
      (FileTree.directory [(name, .file bytes)]).WellFormed := by
    intro name bytes hname
    refine .directory (by simp) (by simpa using hname) ?_
    simpa using FileTree.WellFormed.file bytes
  refine .directory (by decide) (by decide) ?_
  simp only [parts, List.forall_mem_cons]
  exact ⟨hsource, hsingle _ _ (by decide), hsingle _ _ (by decide), .file _, by simp⟩

/-- The extension is found in capitals, too. -/
theorem eligible : Ingest.Eligible scan ["src", "b.PY"] := by
  rw [Ingest.eligible_cons_iff (by simp), Ingest.eligible_singleton_iff]
  decide +kernel

/-- The file is in a directory that is neither hidden nor excluded. -/
theorem fileAt : tree.FileAt ["src", "b.PY"] "b".toUTF8 :=
  .inPart (.head _) (.inPart (.head _) (.here _))

/-- The file that is no text is eligible as well. -/
theorem encard_eligibleFiles : (Ingest.eligibleFiles scan tree).encard = 3 := by
  have hfound : (Ingest.found scan parts).length = 3 := by
    decide +kernel
  rw [tree, Ingest.encard_eligibleFiles wellFormed, hfound]
  rfl

end SmallTree

namespace Ingest

/-- A walk that may find three files finds the two texts, below a hidden directory as well. -/
theorem snapshot_of_tree_three_files :
    ∃ smaller larger,
      snapshot { SmallTree.scan with maxFiles := 3 } ".repository" (some SmallTree.tree) =
        .ok smaller ∧
      snapshot { SmallTree.scan with maxFiles := 5 } ".repository" (some SmallTree.tree) =
        .ok larger ∧
      smaller.files <+: larger.files ∧
      ∃ source ∈ smaller.files, source.id.text = "src/b.PY" ∧ source.content = "b" := by
  have hle : 3 ≤ 5 := by
    decide
  obtain ⟨smaller, larger, files, hsmaller, hlarger, -, -, -, -, hprefix, -, -, hall⟩ :=
    snapshot_of_tree hle SmallTree.wellFormed
  have hcount := SmallTree.encard_eligibleFiles.le
  exact ⟨smaller, larger, hsmaller, hlarger, hprefix,
    hall hcount _ _ SmallTree.fileAt SmallTree.eligible⟩

end Ingest
end CodeSurvey
