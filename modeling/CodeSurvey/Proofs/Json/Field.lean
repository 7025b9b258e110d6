import CodeSurvey.Proofs.Json.Record

/-!
# The fields of records in either form

A record is written as an object or as the array of its fields.  Where a declared field stands in
either form is said once here, and what is read of a record depends on nothing else.

## Main definitions

* `Json.fieldAt?`: the value of a declared field.

## Main results

* `Json.Record.get?_of_readAs`: the fields of a record that has been read.
* `Json.Record.exists_of_required`: a field that must be present.
* `Json.Record.eq_of_defaulted`: a field that takes a default where it is absent.
-/

namespace CodeSurvey
namespace Json

/-- The value of a declared field in either form of a record: under its name in an object, and in its
place in an array. -/
def fieldAt? (names : List String) (value : Json) (name : String) : Option Json :=
  match value with
  | .object fields => fields.lookup name
  | .array items => (names.zip items).lookup name
  | _ => none

/-- Whether a record is given by position. -/
def isArray : Json → Bool
  | .array _ => true
  | _ => false

/-- A decoder that goes on with a result has had that result. -/
theorem bind_eq_ok_iff {α β : Type} {first : Except DecodeError α}
    {rest : α → Except DecodeError β} {y : β} :
    (first >>= rest) = .ok y ↔ ∃ x, first = .ok x ∧ rest x = .ok y := by
  cases first with
  | error e =>
      constructor
      · intro h
        cases h
      · intro h
        obtain ⟨x, hx, -⟩ := h
        cases hx
  | ok x =>
      constructor
      · intro h
        exact ⟨x, rfl, h⟩
      · intro h
        obtain ⟨_, hx, hrest⟩ := h
        cases hx
        exact hrest

theorem bind_ok {α β : Type} {first : Except DecodeError α} {rest : α → Except DecodeError β}
    {x : α} {y : β} (hfirst : first = .ok x) (hrest : rest x = .ok y) :
    (first >>= rest) = .ok y :=
  bind_eq_ok_iff.2 ⟨x, hfirst, hrest⟩

namespace Record

variable {dialect : Dialect} {names : List String} {value : Json} {record : Record}
  {name : String}

/-- A look-up among the declared fields is a look-up among all. -/
theorem lookup_filter_contains (hname : name ∈ names) (fields : List (String × Json)) :
    (fields.filter fun field => names.contains field.1).lookup name = fields.lookup name := by
  induction fields with
  | nil => rfl
  | cons field rest ih =>
      obtain ⟨key, content⟩ := field
      rw [List.filter_cons]
      by_cases hkey : name = key
      · subst hkey
        have hdeclared : names.contains name = true := List.contains_iff_mem.2 hname
        rw [if_pos hdeclared, List.lookup_cons, List.lookup_cons, beq_self_eq_true]
      · have hne : (name == key) = false := beq_false_of_ne hkey
        split
        · rw [List.lookup_cons, List.lookup_cons, hne, ih]
        · rw [List.lookup_cons, hne, ih]

/-- A record has been given in one of two forms. -/
theorem form_of_readAs (hrecord : readAs dialect names value = .ok record) :
    (∃ fields, value = .object fields ∧
      record = ⟨false, fields.filter fun field => names.contains field.1⟩) ∨
    ∃ items, value = .array items ∧ record = ⟨true, names.zip items⟩ := by
  cases value with
  | object fields =>
      simp only [readAs] at hrecord
      split at hrecord
      · cases hrecord
      · split at hrecord
        · cases hrecord
          exact .inl ⟨fields, rfl, rfl⟩
        · cases hrecord
  | array items =>
      simp only [readAs] at hrecord
      split at hrecord
      · cases hrecord
      · cases hrecord
        exact .inr ⟨items, rfl, rfl⟩
  | _ => cases hrecord

theorem get?_of_readAs (hrecord : readAs dialect names value = .ok record) (hname : name ∈ names) :
    record.get? name = fieldAt? names value name := by
  obtain ⟨fields, hvalue, hfields⟩ | ⟨items, hvalue, hitems⟩ := form_of_readAs hrecord
  · rw [hvalue, hfields]
    exact lookup_filter_contains hname fields
  · rw [hvalue, hitems]
    rfl

theorem positional_of_readAs (hrecord : readAs dialect names value = .ok record) :
    record.positional = value.isArray := by
  obtain ⟨fields, hvalue, hfields⟩ | ⟨items, hvalue, hitems⟩ := form_of_readAs hrecord
  · rw [hvalue, hfields]
    rfl
  · rw [hvalue, hitems]
    rfl

/-! ## Absent fields -/

variable {α : Type} {decode : Decoder α} {default x : α}

theorem defaulted_eq_ok_iff :
    record.defaulted name decode default = .ok x ↔
      (∃ content, record.get? name = some content ∧ decode content = .ok x) ∨
        record.get? name = none ∧ x = default := by
  unfold defaulted
  cases record.get? name with
  | none => simp [eq_comm]
  | some content => simp

/-- A field that must be present is read of what the record says of it. -/
theorem exists_of_required (hrecord : readAs dialect names value = .ok record) (hname : name ∈ names)
    (h : record.required name decode = .ok x) :
    ∃ content, fieldAt? names value name = some content ∧ decode content = .ok x := by
  rw [required, get?_of_readAs hrecord hname] at h
  cases hcontent : fieldAt? names value name with
  | none =>
      rw [hcontent] at h
      cases h
  | some content =>
      rw [hcontent] at h
      exact ⟨content, rfl, h⟩

/-- A field that takes a default is what the record says of it, or the default. -/
theorem eq_of_defaulted (hrecord : readAs dialect names value = .ok record) (hname : name ∈ names)
    (h : record.defaulted name decode default = .ok x) :
    x = ((fieldAt? names value name).bind fun content => (decode content).toOption).getD
      default := by
  rw [defaulted_eq_ok_iff, get?_of_readAs hrecord hname] at h
  obtain ⟨content, hcontent, hdecode⟩ | ⟨hnone, hdefault⟩ := h
  · rw [hcontent, Option.bind_some, hdecode]
    rfl
  · rw [hnone]
    exact hdefault

end Record
end Json
end CodeSurvey
