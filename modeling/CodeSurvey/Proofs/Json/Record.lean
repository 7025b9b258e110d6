import CodeSurvey.Json.Record
import Mathlib.Data.List.Nodup

/-!
# Records written as objects

A record that is written as an object must not give any of its declared fields twice, and what is
not declared is ignored.  So the value of a declared field is the one that stands under its name,
wherever that may be.

## Main results

* `Json.Record.read_object_iff`: which objects are read as records.
* `Json.Record.get?_eq_some_iff`: the fields of such a record.
-/

namespace CodeSurvey
namespace Json
namespace Record

variable {names : List String} {fields : List (String × Json)} {record : Record}

/-- Whether no declared field is given twice. -/
def GivenOnce (names : List String) (fields : List (String × Json)) : Prop :=
  ∀ name ∈ names, fields.countP (fun field => field.1 == name) ≤ 1

theorem repeated?_eq_none_iff (fields : List (String × Json)) :
    repeated? fields = none ↔ (fields.map (·.1)).Nodup := by
  induction fields with
  | nil => simp [repeated?]
  | cons field rest ih =>
      have hagain : (rest.any fun other => other.1 == field.1) = true ↔
          field.1 ∈ rest.map (·.1) := by
        simp
      rw [repeated?, List.map_cons, List.nodup_cons, ← ih, ← hagain]
      split <;> simp_all

/-- The declared fields have different names exactly if none of them is given twice. -/
theorem nodup_known_iff :
    ((fields.filter fun field => names.contains field.1).map (·.1)).Nodup ↔
      GivenOnce names fields := by
  have hcount : ∀ name, ((fields.filter fun field => names.contains field.1).map (·.1)).count name =
      if name ∈ names then fields.countP (fun field => field.1 == name) else 0 := by
    intro name
    rw [List.count_eq_countP, List.countP_map, List.countP_filter]
    split
    · rename_i hdeclared
      apply List.countP_congr
      simp only [Function.comp_apply, Bool.and_eq_true, beq_iff_eq, List.contains_iff_mem]
      rintro field -
      exact ⟨And.left, fun hname => ⟨hname, hname ▸ hdeclared⟩⟩
    · rename_i hundeclared
      rw [List.countP_eq_zero]
      simp only [Function.comp_apply, Bool.and_eq_true, beq_iff_eq, List.contains_iff_mem]
      rintro field - ⟨rfl, hdeclared⟩
      exact hundeclared hdeclared
  rw [List.nodup_iff_count_le_one]
  simp only [hcount]
  constructor
  · intro h name hdeclared
    simpa [hdeclared] using h name
  · intro h name
    split
    · rename_i hdeclared
      exact h name hdeclared
    · exact Nat.zero_le 1

theorem read_object_iff :
    read names (.object fields) = .ok record ↔
      GivenOnce names fields ∧
        record = ⟨false, fields.filter fun field => names.contains field.1⟩ := by
  rw [← nodup_known_iff, ← repeated?_eq_none_iff, read, readAs]
  cases hrepeated : repeated? (fields.filter fun field => names.contains field.1) with
  | some name => simp
  | none =>
      have hignored : ((fields.filter fun field => !names.contains field.1).all fun field =>
          Dialect.interchange.ignores field.2) = true := List.all_eq_true.2 fun _ _ => rfl
      simp only [hignored, if_true, Except.ok.injEq, true_and]
      exact eq_comm

/-- Among fields with different names a lookup finds what stands under a name. -/
theorem lookup_eq_some_iff_mem (hnodup : (fields.map (·.1)).Nodup) (name : String) (value : Json) :
    fields.lookup name = some value ↔ (name, value) ∈ fields := by
  induction fields with
  | nil => simp
  | cons field rest ih =>
      obtain ⟨key, content⟩ := field
      obtain ⟨hfresh, hrest⟩ := List.nodup_cons.1 hnodup
      rw [List.lookup_cons]
      by_cases hkey : name = key
      · subst hkey
        have hnot : (name, value) ∉ rest := fun hmem => hfresh (List.mem_map.2 ⟨_, hmem, rfl⟩)
        simp [hnot, eq_comm]
      · have hne : (name == key) = false := beq_false_of_ne hkey
        simp [hne, hkey, ih hrest]

/-- A declared field of a record is the one that the object gives under its name. -/
theorem get?_eq_some_iff (honce : GivenOnce names fields) {name : String} (hname : name ∈ names)
    (value : Json) :
    (Record.mk false (fields.filter fun field => names.contains field.1)).get? name = some value ↔
      (name, value) ∈ fields := by
  rw [get?, lookup_eq_some_iff_mem (nodup_known_iff.2 honce), List.mem_filter]
  simp [hname]

end Record
end Json
end CodeSurvey
