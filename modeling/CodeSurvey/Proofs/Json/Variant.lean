import CodeSurvey.Proofs.Json.Field
import Mathlib.Data.List.Nodup
import Mathlib.Logic.Relation

/-!
# Variants of a value

The same thing can be written in several ways.  The fields of an object have no order, what is not
declared may be added, a field may be left out if it holds what an absent one stands for, and a record
may be written as the array of its fields.  One edit changes one of these at one place, at any depth,
and a variant is what edits lead to.

A record of which an edit is read tells the same, up to an edit of one of its fields.  So the variants
of what an encoder writes are read as one, if those of its fields are.

## Main definitions

* `Json.Format`: where the records are in a value.
* `Json.Edit`, `Json.Variant`: single edits, and what they lead to.
* `Json.Reads`, `Json.RoundTrips`: decoders that read every variant of a value, and of whatever is
  written.

## Main results

* `Json.Edit.keeps`, `Json.variant_keeps`: what an edit leaves of a record, and what a variant does.
* `Json.reads_record`, `Json.RoundTrips.listOf`: reading the variants of records and of lists.
-/

namespace CodeSurvey
namespace Json

/-! ## Edits -/

/-- Where the records are in a value.  A record is given by its fields in their declared order: the
name of a field, what stands for it where it is absent from an object, and its format. -/
inductive Format where
  | plain
  | list (item : Format)
  | record (fields : List (String × Option Json × Format))

/-- The declared fields of a record. -/
abbrev Fields := List (String × Option Json × Format)

/-- The names of declared fields. -/
def Fields.names (fields : Fields) : List String := fields.map (·.1)

/-- A change of a value at one place.

* `item`, `field`, `place`: a change of an item of a list, and of a field of a record in either form.
* `order`: the fields of an object in another order.
* `unknown`: one more field that is not declared.
* `drop`: a field less that holds what stands for an absent one.
* `array`: the fields of a record in their declared order in the place of an object. -/
inductive Edit : Format → Json → Json → Prop
  | item {item : Format} {content content' : Json} (before after : List Json)
      (h : Edit item content content') :
      Edit (.list item) (.array (before ++ content :: after)) (.array (before ++ content' :: after))
  | field {fields : Fields} {name : String} {absent? : Option Json} {format : Format}
      {content content' : Json} (before after : List (String × Json))
      (hfield : (name, absent?, format) ∈ fields) (h : Edit format content content') :
      Edit (.record fields) (.object (before ++ (name, content) :: after))
        (.object (before ++ (name, content') :: after))
  | place {fields first rest : Fields} {name : String} {absent? : Option Json} {format : Format}
      {content content' : Json} (before after : List Json)
      (hfield : fields = first ++ (name, absent?, format) :: rest)
      (hplace : first.length = before.length) (h : Edit format content content') :
      Edit (.record fields) (.array (before ++ content :: after))
        (.array (before ++ content' :: after))
  | order {fields : Fields} {given given' : List (String × Json)} (h : given.Perm given') :
      Edit (.record fields) (.object given) (.object given')
  | unknown {fields : Fields} {name : String} (given : List (String × Json)) (content : Json)
      (h : name ∉ fields.names) :
      Edit (.record fields) (.object given) (.object ((name, content) :: given))
  | drop {fields : Fields} {name : String} {content : Json} {format : Format}
      (before after : List (String × Json)) (hfield : (name, some content, format) ∈ fields) :
      Edit (.record fields) (.object (before ++ (name, content) :: after)) (.object (before ++ after))
  | array {fields : Fields} {given : List (String × Json)} {items : List Json}
      (h : fields.names.map (fun name => given.lookup name) = items.map some) :
      Edit (.record fields) (.object given) (.array items)

/-- What edits lead to. -/
def Variant (format : Format) : Json → Json → Prop := Relation.ReflTransGen (Edit format)

/-- Whether a decoder reads every variant of a value as the same thing. -/
def Reads {α : Type} (decode : Decoder α) (format : Format) (value : Json) (x : α) : Prop :=
  ∀ variant, Variant format value variant → decode variant = .ok x

/-- Whether a decoder reads every variant of what an encoder writes. -/
def RoundTrips {α : Type} (format : Format) (encode : α → Json) (decode : Decoder α) : Prop :=
  ∀ x, Reads decode format (encode x) x

/-! ## Look-ups -/

section LookUps

variable {names : List String} {name other : String} {content content' : Json}
  {before after given given' : List (String × Json)} {items : List Json}

/-- A field in the middle does not change what is found under other names. -/
theorem lookup_middle_of_ne (h : other ≠ name) (content : Json) :
    (before ++ (name, content) :: after).lookup other = (before ++ after).lookup other := by
  rw [List.lookup_append, List.lookup_append, List.lookup_cons, beq_false_of_ne h]

/-- A field is found if none before it has its name. -/
theorem lookup_middle (h : before.lookup name = none) (content : Json) :
    (before ++ (name, content) :: after).lookup name = some content := by
  rw [List.lookup_append, h, Option.none_or, List.lookup_cons_self]

/-- A field that is not given is not found. -/
theorem lookup_eq_none_of_countP (h : given.countP (fun field => field.1 == name) = 0) :
    given.lookup name = none := by
  rw [List.countP_eq_zero] at h
  rw [List.lookup_eq_none_iff]
  intro field hfield
  have hne := h field hfield
  rw [beq_iff_eq] at hne
  exact bne_iff_ne.2 (Ne.symm hne)

/-- A field that is given once is given nowhere else. -/
theorem lookup_eq_none_of_givenOnce (hname : name ∈ names)
    (h : Record.GivenOnce names (before ++ (name, content) :: after)) :
    before.lookup name = none ∧ after.lookup name = none := by
  have hcount := h name hname
  rw [List.countP_append, List.countP_cons_of_pos (by simp)] at hcount
  have hbefore : before.countP (fun field => field.1 == name) = 0 := by
    omega
  have hafter : after.countP (fun field => field.1 == name) = 0 := by
    omega
  exact ⟨lookup_eq_none_of_countP hbefore, lookup_eq_none_of_countP hafter⟩

/-- Where the declared fields are given once at most, what is found is what is given. -/
theorem lookup_eq_some_iff_of_givenOnce (hname : name ∈ names) (h : Record.GivenOnce names given)
    (content : Json) : given.lookup name = some content ↔ (name, content) ∈ given := by
  rw [← Record.get?_eq_some_iff h hname, Record.get?, Record.lookup_filter_contains hname]

/-- The order of the fields does not matter where they are given once at most. -/
theorem lookup_of_perm (hname : name ∈ names) (h : Record.GivenOnce names given)
    (h' : Record.GivenOnce names given') (hperm : given.Perm given') :
    given'.lookup name = given.lookup name := by
  apply Option.ext
  intro content
  rw [lookup_eq_some_iff_of_givenOnce hname h, lookup_eq_some_iff_of_givenOnce hname h',
    hperm.mem_iff]

/-- The array of what is found under names holds under each name what is found there. -/
theorem lookup_zip_of_map {look : String → Option Json} (h : names.map look = items.map some)
    (hname : name ∈ names) : (names.zip items).lookup name = look name := by
  induction names generalizing items with
  | nil => cases hname
  | cons first rest ih =>
      cases items with
      | nil => cases h
      | cons item items =>
          rw [List.map_cons, List.map_cons, List.cons.injEq] at h
          rw [List.zip_cons_cons, List.lookup_cons]
          by_cases hfirst : name = first
          · rw [hfirst, beq_self_eq_true, h.1]
          · rw [beq_false_of_ne hfirst]
            exact ih h.2 ((List.mem_cons.1 hname).resolve_left hfirst)

end LookUps

/-! ## Steps of a record -/

/-- What stands for a field of a record in either form. -/
def contentAt? (names : List String) (value : Json) (name : String) (absent? : Option Json) :
    Option Json :=
  (fieldAt? names value name).or (if value.isArray then none else absent?)

/-- Whether a value can be read as a record. -/
def IsRecord (names : List String) (value : Json) : Prop :=
  ∃ record, Record.read names value = .ok record

/-- Whether one field is the same as another or one edit away from it. -/
def Moves (format : Format) (field field' : Option Json) : Prop :=
  field' = field ∨ ∃ content content', field = some content ∧ field' = some content' ∧
    Edit format content content'

/-- Whether a value is a record whose fields are those of another, up to one edit. -/
structure Keeps (fields : Fields) (value value' : Json) : Prop where
  isRecord : IsRecord fields.names value'
  moves : ∀ (name : String) (absent? : Option Json) (format : Format),
    (name, absent?, format) ∈ fields →
    Moves format (contentAt? fields.names value name absent?)
      (contentAt? fields.names value' name absent?)

section Steps

variable {names : List String} {fields : Fields} {name : String} {absent? : Option Json}
  {format : Format} {content content' value value' : Json}
  {given given' before after : List (String × Json)} {items : List Json}

/-- An object is a record if it gives no declared field twice. -/
theorem isRecord_object_iff :
    IsRecord names (.object given) ↔ Record.GivenOnce names given := by
  unfold IsRecord
  simp only [Record.read_object_iff]
  constructor
  · intro h
    obtain ⟨record, honce, -⟩ := h
    exact honce
  · intro h
    exact ⟨_, h, rfl⟩

/-- An array is a record if it is not longer than the declared fields are many. -/
theorem isRecord_array_iff : IsRecord names (.array items) ↔ items.length ≤ names.length := by
  unfold IsRecord Record.read Record.readAs
  by_cases hsurplus : names.length < items.length
  · simp [hsurplus, Dialect.interchange]
  · simp [hsurplus, Dialect.interchange]
    omega

/-- In an object a field is found by its name, and else what stands for it is taken. -/
theorem contentAt?_object (name : String) (absent? : Option Json) :
    contentAt? names (.object given) name absent? = (given.lookup name).or absent? :=
  rfl

/-- In an array a field is found by the place of its name. -/
theorem contentAt?_array (name : String) (absent? : Option Json) :
    contentAt? names (.array items) name absent? = (names.zip items).lookup name :=
  Option.or_none

/-- The name of a declared field is a declared name. -/
theorem mem_names (hfield : (name, absent?, format) ∈ fields) : name ∈ fields.names :=
  List.mem_map_of_mem hfield

/-- Fields with different names are told apart by their names. -/
theorem eq_of_mem_fields (hnodup : fields.names.Nodup) {absent?' : Option Json} {format' : Format}
    (h : (name, absent?, format) ∈ fields) (h' : (name, absent?', format') ∈ fields) :
    absent? = absent?' ∧ format = format' := by
  have heq := List.inj_on_of_nodup_map hnodup h h' rfl
  simpa using heq

/-- Changing a field of an object changes this field of the record alone. -/
theorem keeps_field (hnodup : fields.names.Nodup) (hfield : (name, absent?, format) ∈ fields)
    (h : Edit format content content')
    (hrecord : IsRecord fields.names (.object (before ++ (name, content) :: after))) :
    Keeps fields (.object (before ++ (name, content) :: after))
      (.object (before ++ (name, content') :: after)) := by
  rw [isRecord_object_iff] at hrecord
  obtain ⟨hbefore, -⟩ := lookup_eq_none_of_givenOnce (mem_names hfield) hrecord
  constructor
  · rw [isRecord_object_iff]
    intro other hother
    simpa [List.countP_append, List.countP_cons] using hrecord other hother
  · intro other absent?' format' hother
    rw [contentAt?_object, contentAt?_object]
    by_cases heq : other = name
    · subst heq
      obtain ⟨rfl, rfl⟩ := eq_of_mem_fields hnodup hfield hother
      rw [lookup_middle hbefore, lookup_middle hbefore, Option.some_or, Option.some_or]
      exact .inr ⟨content, content', rfl, rfl, h⟩
    · rw [lookup_middle_of_ne heq, lookup_middle_of_ne heq]
      exact .inl rfl

/-- The place of an item in an array is that of its field. -/
theorem keeps_place {first rest : Fields} {before after : List Json}
    (hnodup : fields.names.Nodup) (hfield : fields = first ++ (name, absent?, format) :: rest)
    (hplace : first.length = before.length) (h : Edit format content content')
    (hrecord : IsRecord fields.names (.array (before ++ content :: after))) :
    Keeps fields (.array (before ++ content :: after)) (.array (before ++ content' :: after)) := by
  have hnames : fields.names = first.names ++ name :: rest.names := by
    rw [hfield, Fields.names, List.map_append]
    rfl
  have hlength : first.names.length = before.length := by
    rw [Fields.names, List.length_map, hplace]
  have hzip : ∀ item, fields.names.zip (before ++ item :: after) =
      first.names.zip before ++ (name, item) :: rest.names.zip after := by
    intro item
    rw [hnames, List.zip_append hlength, List.zip_cons_cons]
  have hmem : (name, absent?, format) ∈ fields := by
    simp [hfield]
  have hbefore : (first.names.zip before).lookup name = none := by
    rw [List.lookup_eq_none_iff]
    intro entry hentry
    have hfirst : entry.1 ∈ first.names := (List.of_mem_zip hentry).1
    rw [hnames, List.nodup_append] at hnodup
    exact bne_iff_ne.2 (Ne.symm (hnodup.2.2 _ hfirst name (by simp)))
  constructor
  · rw [isRecord_array_iff] at hrecord ⊢
    simpa using hrecord
  · intro other absent?' format' hother
    rw [contentAt?_array, contentAt?_array, hzip, hzip]
    by_cases heq : other = name
    · subst heq
      obtain ⟨rfl, rfl⟩ := eq_of_mem_fields hnodup hmem hother
      rw [lookup_middle hbefore, lookup_middle hbefore]
      exact .inr ⟨content, content', rfl, rfl, h⟩
    · rw [lookup_middle_of_ne heq, lookup_middle_of_ne heq]
      exact .inl rfl

/-- Another order of the fields changes nothing in the record. -/
theorem keeps_order (hperm : given.Perm given')
    (hrecord : IsRecord fields.names (.object given)) :
    Keeps fields (.object given) (.object given') := by
  have honce := isRecord_object_iff.1 hrecord
  have honce' : Record.GivenOnce fields.names given' := by
    intro other hother
    rw [← hperm.countP_eq]
    exact honce other hother
  constructor
  · exact isRecord_object_iff.2 honce'
  · intro other absent? format hother
    rw [contentAt?_object, contentAt?_object, lookup_of_perm (mem_names hother) honce honce' hperm]
    exact .inl rfl

/-- One more field that is not declared changes nothing in the record. -/
theorem keeps_unknown (hname : name ∉ fields.names) (content : Json)
    (hrecord : IsRecord fields.names (.object given)) :
    Keeps fields (.object given) (.object ((name, content) :: given)) := by
  constructor
  · rw [isRecord_object_iff] at hrecord ⊢
    intro other hother
    have hne : name ≠ other := by
      intro heq
      exact hname (heq ▸ hother)
    rw [List.countP_cons_of_neg (by simpa using hne)]
    exact hrecord other hother
  · intro other absent? format hother
    have hne : other ≠ name := by
      intro heq
      exact hname (heq ▸ mem_names hother)
    rw [contentAt?_object, contentAt?_object, List.lookup_cons, beq_false_of_ne hne]
    exact .inl rfl

/-- Leaving out a field that holds what stands for it changes nothing in the record. -/
theorem keeps_drop (hnodup : fields.names.Nodup) (hfield : (name, some content, format) ∈ fields)
    (hrecord : IsRecord fields.names (.object (before ++ (name, content) :: after))) :
    Keeps fields (.object (before ++ (name, content) :: after)) (.object (before ++ after)) := by
  rw [isRecord_object_iff] at hrecord
  obtain ⟨hbefore, hafter⟩ := lookup_eq_none_of_givenOnce (mem_names hfield) hrecord
  constructor
  · rw [isRecord_object_iff]
    intro other hother
    have hcount := hrecord other hother
    rw [List.countP_append, List.countP_cons] at hcount
    rw [List.countP_append]
    omega
  · intro other absent? format' hother
    rw [contentAt?_object, contentAt?_object]
    by_cases heq : other = name
    · subst heq
      obtain ⟨rfl, -⟩ := eq_of_mem_fields hnodup hfield hother
      rw [lookup_middle hbefore, List.lookup_append, hbefore, hafter]
      exact .inl rfl
    · rw [lookup_middle_of_ne heq]
      exact .inl rfl

/-- The array of its fields is the same record. -/
theorem keeps_array
    (hitems : fields.names.map (fun name => given.lookup name) = items.map some) :
    Keeps fields (.object given) (.array items) := by
  constructor
  · have hlength := congrArg List.length hitems
    rw [List.length_map, List.length_map] at hlength
    exact isRecord_array_iff.2 (Nat.le_of_eq hlength.symm)
  · intro other absent? format hother
    have hname : other ∈ fields.names := mem_names hother
    obtain ⟨item, -, hitem⟩ := List.mem_map.1 (hitems ▸ List.mem_map_of_mem hname)
    rw [contentAt?_object, contentAt?_array, lookup_zip_of_map hitems hname, ← hitem]
    exact .inl rfl

/-- An edit of a record leaves a record, in which every field stays or is edited itself. -/
theorem Edit.keeps (hnodup : fields.names.Nodup) (h : Edit (.record fields) value value')
    (hrecord : IsRecord fields.names value) : Keeps fields value value' := by
  cases h with
  | field before after hfield h => exact keeps_field hnodup hfield h hrecord
  | place before after hfield hplace h => exact keeps_place hnodup hfield hplace h hrecord
  | order hperm => exact keeps_order hperm hrecord
  | unknown given content hname => exact keeps_unknown hname content hrecord
  | drop before after hfield => exact keeps_drop hnodup hfield hrecord
  | array hitems => exact keeps_array hitems

/-! ## Variants of records -/

/-- The fields of a variant of a record are variants of its fields. -/
theorem variant_keeps (hnodup : fields.names.Nodup) (h : Variant (.record fields) value value')
    (hrecord : IsRecord fields.names value) :
    IsRecord fields.names value' ∧
      ∀ (name : String) (absent? : Option Json) (format : Format),
        (name, absent?, format) ∈ fields →
        ∀ content, contentAt? fields.names value name absent? = some content →
          ∃ content', contentAt? fields.names value' name absent? = some content' ∧
            Variant format content content' := by
  -- every edit leaves a record, and changes each field by one edit at most
  induction h with
  | refl => exact ⟨hrecord, fun name absent? format hfield content h => ⟨content, h, .refl⟩⟩
  | tail hvariant hedit ih =>
      obtain ⟨hmiddle, hfields⟩ := ih
      have hkeeps := hedit.keeps hnodup hmiddle
      refine ⟨hkeeps.isRecord, ?_⟩
      intro name absent? format hfield content hcontent
      obtain ⟨other, hother, hvariant⟩ := hfields name absent? format hfield content hcontent
      cases hkeeps.moves name absent? format hfield with
      | inl hsame => exact ⟨other, hsame.trans hother, hvariant⟩
      | inr hmoves =>
          obtain ⟨first, second, hfirst, hsecond, hedit⟩ := hmoves
          rw [hother, Option.some.injEq] at hfirst
          subst hfirst
          exact ⟨second, hsecond, hvariant.tail hedit⟩

end Steps

/-! ## Reading records -/

/-- Whether the fields of a record are variants of those of a value. -/
def Record.Tells (record : Record) (fields : Fields) (value : Json) : Prop :=
  ∀ (name : String) (absent? : Option Json) (format : Format), (name, absent?, format) ∈ fields →
    ∀ content, contentAt? fields.names value name absent? = some content →
      ∃ content', (record.get? name).or (if record.positional then none else absent?) =
        some content' ∧ Variant format content content'

section Reading

variable {α : Type} {fields : Fields} {value : Json} {record : Record}

/-- A record is read as what it was written for, if that follows from what its variants tell. -/
theorem reads_record {body : Record → Except DecodeError α} {x : α}
    (hnodup : fields.names.Nodup) (hrecord : IsRecord fields.names value)
    (h : ∀ record : Record, record.Tells fields value → body record = .ok x) :
    Reads (fun variant => Record.read fields.names variant >>= body) (.record fields) value x := by
  intro variant hvariant
  obtain ⟨⟨record, hread⟩, hfields⟩ := variant_keeps hnodup hvariant hrecord
  refine bind_ok hread (h record ?_)
  intro name absent? format hfield content hcontent
  rw [Record.get?_of_readAs hread (mem_names hfield), Record.positional_of_readAs hread]
  exact hfields name absent? format hfield content hcontent

namespace Record.Tells

variable {name : String} {format : Format} {content : Json} {decode : Decoder α} {x : α}
  (h : record.Tells fields value)
include h

/-- What is found of a field, or stands for it, is read as what the field was written for. -/
theorem exists_found {absent? : Option Json} (hfield : (name, absent?, format) ∈ fields)
    (hcontent : contentAt? fields.names value name absent? = some content)
    (hreads : Reads decode format content x) :
    ∃ found, decode found = .ok x ∧
      (record.get? name = some found ∨
        record.get? name = none ∧ record.positional = false ∧ absent? = some found) := by
  obtain ⟨found, hfound, hvariant⟩ := h name absent? format hfield content hcontent
  refine ⟨found, hreads found hvariant, ?_⟩
  cases hget : record.get? name with
  | some other =>
      rw [hget, Option.some_or] at hfound
      exact .inl hfound
  | none =>
      rw [hget, Option.none_or] at hfound
      cases hform : record.positional with
      | true => simp [hform] at hfound
      | false =>
          rw [hform, if_neg Bool.false_ne_true] at hfound
          exact .inr ⟨rfl, rfl, hfound⟩

/-- A field that must be present is read as what it was written for. -/
theorem required (hfield : (name, none, format) ∈ fields)
    (hcontent : contentAt? fields.names value name none = some content)
    (hreads : Reads decode format content x) : record.required name decode = .ok x := by
  obtain ⟨found, hread, hfound⟩ := h.exists_found hfield hcontent hreads
  unfold Record.required
  cases hfound with
  | inl hget =>
      rw [hget]
      exact hread
  | inr habsent => cases habsent.2.2

/-- So is a field that takes a default, if that is what stands for an absent one. -/
theorem defaulted (absent : Json) {default : α} (hfield : (name, some absent, format) ∈ fields)
    (hcontent : contentAt? fields.names value name (some absent) = some content)
    (hreads : Reads decode format content x) (hdefault : decode absent = .ok default) :
    record.defaulted name decode default = .ok x := by
  obtain ⟨found, hread, hfound⟩ := h.exists_found hfield hcontent hreads
  unfold Record.defaulted
  cases hfound with
  | inl hget =>
      rw [hget]
      exact hread
  | inr habsent =>
      obtain ⟨hnone, -, heq⟩ := habsent
      cases heq
      rw [hnone]
      exact hdefault.symm.trans hread

/-- So is a field that may be null. -/
theorem optional {x : Option α} (hfield : (name, some .null, format) ∈ fields)
    (hcontent : contentAt? fields.names value name (some .null) = some content)
    (hreads : Reads (Decoder.option decode) format content x) :
    record.optional name decode = .ok x := by
  obtain ⟨found, hread, hfound⟩ := h.exists_found hfield hcontent hreads
  unfold Record.optional
  cases hfound with
  | inl hget =>
      rw [hget]
      exact hread
  | inr habsent =>
      obtain ⟨hnone, hform, heq⟩ := habsent
      cases heq
      rw [hnone, hform]
      exact hread

end Record.Tells

end Reading

/-! ## Reading other values -/

section Values

variable {α : Type} {format : Format} {encode : α → Json} {decode : Decoder α}

/-- A value without records has no variants but itself. -/
theorem eq_of_variant_plain {value value' : Json} (h : Variant .plain value value') :
    value' = value := by
  induction h with
  | refl => rfl
  | tail _ hedit _ => cases hedit

/-- A value without records in it has no variants but itself. -/
theorem reads_plain {value : Json} {x : α} (h : decode value = .ok x) :
    Reads decode .plain value x := by
  intro variant hvariant
  rw [eq_of_variant_plain hvariant]
  exact h

/-- What relates two lists still does so after a change of one item that keeps the relation. -/
theorem forall₂_middle {R : Json → Json → Prop} {items before after : List Json}
    {content content' : Json} (h : List.Forall₂ R items (before ++ content :: after))
    (hmiddle : ∀ item, R item content → R item content') :
    List.Forall₂ R items (before ++ content' :: after) := by
  induction before generalizing items with
  | nil =>
      cases h with
      | cons hfirst hrest => exact .cons (hmiddle _ hfirst) hrest
  | cons first before ih =>
      cases h with
      | cons hfirst hrest => exact .cons hfirst (ih hrest)

/-- The items of a variant of a list are variants of its items. -/
theorem variant_list {item : Format} {items : List Json} {value : Json}
    (h : Variant (.list item) (.array items) value) :
    ∃ items', value = .array items' ∧ List.Forall₂ (Variant item) items items' := by
  induction h with
  | refl => exact ⟨items, rfl, List.forall₂_same.2 fun _ _ => .refl⟩
  | tail _ hedit ih =>
      obtain ⟨middle, hmiddle, hitems⟩ := ih
      cases hedit with
      | item before after hedit =>
          cases hmiddle
          exact ⟨_, rfl, forall₂_middle hitems fun _ hvariant => hvariant.tail hedit⟩

/-- A list is read if each of its items is a variant of what was written. -/
theorem mapM_of_forall₂ {xs : List α} {items : List Json} (h : RoundTrips format encode decode)
    (hitems : List.Forall₂ (Variant format) (xs.map encode) items) :
    items.mapM decode = .ok xs := by
  induction xs generalizing items with
  | nil =>
      cases hitems
      rfl
  | cons x xs ih =>
      cases hitems with
      | cons hfirst hrest =>
          rw [List.mapM_cons, h x _ hfirst, ih hrest]
          rfl

/-- A list is read as what it was written for, if its items are. -/
theorem RoundTrips.listOf (h : RoundTrips format encode decode) :
    RoundTrips (.list format) (Json.listOf encode) (Decoder.listOf decode) := by
  intro xs value hvariant
  obtain ⟨items, rfl, hitems⟩ := variant_list hvariant
  exact mapM_of_forall₂ h hitems

/-- A value that may be missing is read as what it was written for, if null is written for nothing
else. -/
theorem RoundTrips.option (h : RoundTrips .plain encode decode) (hnull : ∀ x, encode x ≠ .null) :
    RoundTrips .plain (Json.optional encode) (Decoder.option decode) := by
  intro x
  apply reads_plain
  cases x with
  | none => rfl
  | some x =>
      unfold Json.optional Decoder.option
      split
      · rename_i hencode
        exact absurd hencode (hnull x)
      · rw [h x _ .refl]
        rfl

end Values

end Json
end CodeSurvey
