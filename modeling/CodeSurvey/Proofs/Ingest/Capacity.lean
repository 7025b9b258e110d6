import CodeSurvey.Proofs.Ingest.Snapshot
import Mathlib.Data.ENat.Lattice

/-!
# Files that are no texts

A walk ends when it has found as many files as are allowed, and only then those that are no texts are
left out.  So a file that is no text takes the place of a later one that is, and a snapshot may hold
fewer files than are allowed although there are more of them.  This file says how many places are
lost that way, and when none is.

## Main definitions

* `Ingest.Found.isText`: the found files that can be read.
* `Ingest.textFiles`: the eligible files that can be read.

## Main results

* `Ingest.encard_textFiles`: how many of them there are.
* `Ingest.places_taken`: how many files a snapshot falls short of what it may hold.
* `Ingest.place_lost`: it may fall short.
-/

namespace CodeSurvey
namespace Ingest

open Settings (Scan)

/-- Whether the content of a found file is a text. -/
def Found.isText (file : Found) : Bool := (String.fromUTF8? file.bytes).isSome

/-- The eligible files of a tree that are texts, by the names that lead to them. -/
def textFiles (scan : Scan) (tree : FileTree) : Set (List String) :=
  {names | ∃ text : String, tree.FileAt names text.toUTF8 ∧ Eligible scan names}

section Capacity

variable {scan : Scan} {root : String} {parts : List (String × FileTree)} {file : Found}

/-- A file is a text if its bytes are those of some text. -/
theorem isText_iff : file.isText = true ↔ ∃ text : String, text.toUTF8 = file.bytes := by
  rw [Found.isText, Option.isSome_iff_exists]
  simp only [Text.fromUTF8?_eq_some_iff]

/-- A snapshot holds the files that are texts. -/
theorem length_filterMap_source? (files : List Found) :
    (files.filterMap (Found.source? root)).length = files.countP Found.isText := by
  rw [List.length_filterMap_eq_countP]
  congr 1
  funext file
  rw [Found.source?, Option.isSome_map, Found.isText]

/-- There are as many eligible files that are texts as a walk finds that does not end early. -/
theorem encard_textFiles (h : (FileTree.directory parts).WellFormed) :
    (textFiles scan (.directory parts)).encard = (found scan parts).countP Found.isText := by
  have hnodup : (((found scan parts).filter Found.isText).map Found.names).Nodup :=
    (nodup_found h).sublist (List.filter_sublist.map _)
  have hset : textFiles scan (.directory parts) =
      (((found scan parts).filter Found.isText).map Found.names).toFinset := by
    rw [List.coe_toFinset]
    ext names
    simp only [textFiles, Set.mem_ofPred_eq, List.mem_map, List.mem_filter, isText_iff]
    constructor
    · rintro ⟨text, hat, heligible⟩
      exact ⟨⟨names, text.toUTF8⟩, ⟨mem_found_iff.2 ⟨hat, heligible⟩, text, rfl⟩, rfl⟩
    · rintro ⟨file, ⟨hfile, text, htext⟩, rfl⟩
      refine ⟨text, ?_⟩
      rw [htext]
      exact mem_found_iff.1 hfile
  rw [hset, Set.encard_coe_eq_coe_finsetCard, List.toFinset_card_of_nodup hnodup,
    List.length_map, List.countP_eq_length_filter]

/-! ## Places -/

/-- Of the first so many files, those that are no texts and the later ones that are texts make up for
each other. -/
theorem countP_take_add_min (limit : Nat) (files : List Found) :
    (files.take limit).countP Found.isText +
        min ((files.take limit).countP fun file => !file.isText)
          ((files.drop limit).countP Found.isText) =
      min limit (files.countP Found.isText) := by
  have htotal : files.countP Found.isText =
      (files.take limit).countP Found.isText + (files.drop limit).countP Found.isText := by
    rw [← List.countP_append, List.take_append_drop]
  have hfirst : (files.take limit).length =
      (files.take limit).countP Found.isText +
        (files.take limit).countP fun file => !file.isText := by
    rw [List.length_eq_countP_add_countP Found.isText]
    simp
  have hlater : (files.drop limit).countP Found.isText ≤ files.length - limit := by
    rw [← List.length_drop]
    exact List.countP_le_length
  rw [List.length_take] at hfirst
  omega

/-- No files are texts exactly if each of them is none. -/
theorem countP_isText_eq_zero_iff (files : List Found) :
    files.countP Found.isText = 0 ↔ ∀ file ∈ files, file.isText = false := by
  rw [List.countP_eq_zero]
  simp

/-- No files are other than texts exactly if each of them is one. -/
theorem countP_not_isText_eq_zero_iff (files : List Found) :
    (files.countP fun file => !file.isText) = 0 ↔ ∀ file ∈ files, file.isText = true := by
  rw [List.countP_eq_zero]
  simp

/-- A snapshot that may hold so many files holds those texts that are among the first so many
eligible files.  If there are enough texts, it lacks as many files as there are others among the
first ones; if there are not, it lacks the texts that come later.  So it is as full as it can be
exactly if all of the first files are texts, or none of the later ones. -/
theorem places_taken (h : (FileTree.directory parts).WellFormed) (limit : Nat) :
    ∃ shot files count,
      snapshot { scan with maxFiles := limit } root (some (.directory parts)) = .ok shot ∧
      Lists scan (.directory parts) files ∧
      (textFiles scan (.directory parts)).encard = (count : Nat) ∧
      shot.files = (files.take limit).filterMap (Found.source? root) ∧
      shot.files.length +
          min ((files.take limit).countP fun file => !file.isText)
            ((files.drop limit).countP Found.isText) =
        min limit count ∧
      (shot.files.length = min limit count ↔
        (∀ file ∈ files.take limit, ∃ text : String, text.toUTF8 = file.bytes) ∨
          ∀ file ∈ files.drop limit, ¬ ∃ text : String, text.toUTF8 = file.bytes) := by
  refine ⟨_, found scan parts, _, snapshot_eq limit,
    ⟨fun _ => mem_found_iff, ascending_found h⟩, encard_textFiles h, rfl, ?_, ?_⟩
  · rw [length_filterMap_source?]
    exact countP_take_add_min limit _
  · simp only [← isText_iff, Bool.not_eq_true]
    rw [length_filterMap_source?, ← countP_isText_eq_zero_iff, ← countP_not_isText_eq_zero_iff,
      ← countP_take_add_min limit]
    omega

end Capacity

end Ingest

/-! ## A file in the way -/

namespace FileInTheWay

/-- The first file is no text, and the second one is. -/
def parts : List (String × FileTree) := [
  ("a.py", .file ⟨#[0xff]⟩), ("b.py", .file "b".toUTF8)]

theorem wellFormed : (FileTree.directory parts).WellFormed := by
  apply FileTree.WellFormed.directory
  · decide
  · decide
  · simp only [parts, List.forall_mem_cons]
    exact ⟨.file _, .file _, by simp⟩

/-- There is one text in the directory, however many files may be taken. -/
theorem encard_textFiles (limit : Nat) :
    (Ingest.textFiles { Settings.Scan.default with maxFiles := limit }
      (.directory parts)).encard = 1 := by
  have hcount : (Ingest.found .default parts).countP Ingest.Found.isText = 1 := by
    decide +kernel
  rw [Ingest.encard_textFiles wellFormed, Ingest.found_maxFiles, hcount]
  rfl

/-- The default scan of a single file. -/
def scan : Settings.Scan := { Settings.Scan.default with maxFiles := 1 }

/-- Whether the snapshot of a single file is empty. -/
def isEmpty : Bool :=
  match Ingest.snapshot scan "." (some (.directory parts)) with
  | .ok shot => shot.files.isEmpty
  | .error _ => false

/-- The snapshot of a single file is empty. -/
theorem length_eq_zero {shot : Snapshot}
    (h : Ingest.snapshot scan "." (some (.directory parts)) = .ok shot) :
    shot.files.length = 0 := by
  have hempty : isEmpty = true := by
    decide +kernel
  unfold isEmpty at hempty
  rw [h] at hempty
  rw [List.length_eq_zero_iff]
  exact List.isEmpty_iff.1 hempty

end FileInTheWay

namespace Ingest

/-- The snapshot of a single file lacks the text, because a file that is no text comes before it. -/
theorem places_taken_two_files :
    ∃ shot files,
      snapshot FileInTheWay.scan "." (some (.directory FileInTheWay.parts)) = .ok shot ∧
      Lists .default (.directory FileInTheWay.parts) files ∧ shot.files.length = 0 ∧
      (∃ file ∈ files.take 1, file.isText = false) ∧
      ∃ file ∈ files.drop 1, file.isText = true := by
  obtain ⟨shot, files, count, hshot, hlists, hcount, -, hplaces, -⟩ :=
    @places_taken .default "." _ FileInTheWay.wellFormed 1
  have hone : count = 1 := by
    have hexact : (1 : ℕ∞) = count := (FileInTheWay.encard_textFiles 200).symm.trans hcount
    exact_mod_cast hexact.symm
  have hempty : shot.files.length = 0 := FileInTheWay.length_eq_zero hshot
  have hfirst : 0 < (files.take 1).countP fun file => !file.isText := by
    omega
  have hlater : 0 < (files.drop 1).countP Found.isText := by
    omega
  rw [List.countP_pos_iff] at hfirst hlater
  refine ⟨shot, files, hshot, hlists, hempty, ?_, hlater⟩
  simpa using hfirst

/-- A file that is no text may take the place of one that is. -/
theorem place_lost :
    ¬ ∀ (scan : Settings.Scan) (root : String) (parts : List (String × FileTree)),
      (FileTree.directory parts).WellFormed →
      ∃ shot, snapshot scan root (some (.directory parts)) = .ok shot ∧
        (shot.files.length : ℕ∞) =
          min (scan.maxFiles : ℕ∞) (textFiles scan (.directory parts)).encard := by
  intro hfills
  obtain ⟨shot, hshot, hlength⟩ :=
    hfills FileInTheWay.scan "." FileInTheWay.parts FileInTheWay.wellFormed
  have hcount : (textFiles FileInTheWay.scan (.directory FileInTheWay.parts)).encard = 1 :=
    FileInTheWay.encard_textFiles 1
  have hlimit : (FileInTheWay.scan.maxFiles : ℕ∞) = 1 := rfl
  rw [FileInTheWay.length_eq_zero hshot, hcount, hlimit] at hlength
  simp at hlength

end Ingest
end CodeSurvey
