import CodeSurvey.Judge.Verdict
import CodeSurvey.Proofs.Json.Reader
import CodeSurvey.Proofs.Json.Record
import CodeSurvey.Proofs.Text.Blank

/-!
# Reading the verdict of the judge

The judge may wrap its verdict in prose and in code fences.  What counts is the longest part that
begins with the first opening brace and ends with a closing brace; it must hold an object that gives
the name of a decision.

## Main results

* `Judge.objectSlice?_eq_some_iff`: the part of an answer that is read.
* `Judge.isFirstLongest_iff`: it is the first match of a brace, anything and a brace, and the
  longest one there.
* `Judge.verdict?_eq_some_iff`: the answers with a verdict.
* `Judge.verdict_extraction`: prose around an object does not matter.
-/

namespace CodeSurvey
namespace Judge

open Json (Decoder Record)

/-! ## The part of an answer that is read -/

/-- An opening brace, anything, and a closing brace. -/
def Braced (part : List Char) : Prop :=
  ∃ inner, part = '\x7b' :: (inner ++ ['\x7d'])

/-- Whether a part of a text reaches from the first opening brace to the last closing brace. -/
def IsOutermost (part content : List Char) : Prop :=
  Braced part ∧ ∃ front rest, content = front ++ part ++ rest ∧ '\x7b' ∉ front ∧ '\x7d' ∉ rest

/-- Whether a part of a text is the first one of its form, and the longest one that begins there. -/
def IsFirstLongest (part content : List Char) : Prop :=
  Braced part ∧ ∃ front rest, content = front ++ part ++ rest ∧
    ∀ otherFront other otherRest, content = otherFront ++ other ++ otherRest → Braced other →
      front.length ≤ otherFront.length ∧
        (front.length = otherFront.length → other.length ≤ part.length)

/-- The first match of greatest length reaches to the last closing brace. -/
theorem IsFirstLongest.isOutermost {part content : List Char} (h : IsFirstLongest part content) :
    IsOutermost part content := by
  obtain ⟨hbraced, front, rest, rfl, hall⟩ := h
  refine ⟨hbraced, front, rest, rfl, ?_, ?_⟩
  · intro hopen
    obtain ⟨before, after, rfl⟩ := List.append_of_mem hopen
    obtain ⟨inner, rfl⟩ := hbraced
    have hearlier := hall before ('\x7b' :: ((after ++ '\x7b' :: inner) ++ ['\x7d'])) rest
      (by simp) ⟨_, rfl⟩
    simp only [List.length_append, List.length_cons] at hearlier
    omega
  · intro hclose
    obtain ⟨before, after, rfl⟩ := List.append_of_mem hclose
    obtain ⟨inner, rfl⟩ := hbraced
    have hlonger := hall front ('\x7b' :: ((inner ++ '\x7d' :: before) ++ ['\x7d'])) after
      (by simp) ⟨_, rfl⟩
    simp only [List.length_append, List.length_cons, true_implies] at hlonger
    omega

/-- What lies between the outermost braces is the first match of greatest length. -/
theorem IsOutermost.isFirstLongest {part content : List Char} (h : IsOutermost part content) :
    IsFirstLongest part content := by
  obtain ⟨hbraced, front, rest, rfl, hopen, hclose⟩ := h
  refine ⟨hbraced, front, rest, rfl, ?_⟩
  rintro otherFront _ otherRest hsame ⟨inner, rfl⟩
  rw [List.append_assoc, List.append_assoc] at hsame
  -- The other part cannot begin in front of this one, where no brace opens.
  obtain ⟨gap, rfl, hbehind⟩ : ∃ gap, otherFront = front ++ gap ∧
      part ++ rest = gap ++ ('\x7b' :: (inner ++ ['\x7d']) ++ otherRest) := by
    rcases List.append_eq_append_iff.1 hsame with hlater | ⟨gap, rfl, hgap⟩
    · exact hlater
    · cases gap with
      | nil => exact ⟨[], by simp, hgap.symm⟩
      | cons c gap =>
          injection hgap with hc _
          exact absurd (List.mem_append_right _ (hc ▸ List.mem_cons_self)) hopen
  refine ⟨by simp, fun hlength => ?_⟩
  have hnil : gap = [] := by simpa using hlength
  rw [hnil, List.nil_append] at hbehind
  -- Nor can it end behind this one, where no brace closes.
  rcases List.append_eq_append_iff.1 hbehind with ⟨gap, hlonger, rfl⟩ | ⟨gap, rfl, _⟩
  · cases hgap : gap.getLast? with
    | none =>
        rw [List.getLast?_eq_none_iff.1 hgap, List.append_nil] at hlonger
        rw [hlonger]
    | some c =>
        have hlast := congrArg List.getLast? hlonger
        rw [List.getLast?_append, hgap, ← List.cons_append, List.getLast?_concat] at hlast
        have hc : '\x7d' = c := Option.some.inj hlast
        exact absurd (List.mem_append_left _ (hc ▸ List.mem_of_getLast? hgap)) hclose
  · simp

/-- The outermost braces are what a search for the first part of the form finds, if it takes as much
as it can. -/
theorem isFirstLongest_iff (part content : List Char) :
    IsFirstLongest part content ↔ IsOutermost part content :=
  ⟨IsFirstLongest.isOutermost, IsOutermost.isFirstLongest⟩

/-- The part of an answer that is read is the one between the outermost braces. -/
theorem objectSlice?_eq_some_iff (part content : List Char) :
    objectSlice? content = some part ↔ IsOutermost part content := by
  have hslice : objectSlice? content = some part ↔
      Text.dropWhileEnd (· != '\x7d') (content.dropWhile (· != '\x7b')) = part ∧ part ≠ [] := by
    simp only [objectSlice?, List.isEmpty_iff]
    split
    · rename_i hnil
      simp [hnil, eq_comm]
    · rename_i hne
      simp only [Option.some.injEq]
      exact ⟨fun h => ⟨h, h ▸ hne⟩, And.left⟩
  rw [hslice]
  constructor
  · rintro ⟨rfl, hne⟩
    have hopen : content.dropWhile (· != '\x7b') ≠ [] := by
      intro hnil
      rw [hnil] at hne
      exact hne rfl
    obtain ⟨tail, htail⟩ := Text.exists_dropWhile_ne_eq_cons hopen
    obtain ⟨opened, hopened⟩ := Text.exists_dropWhileEnd_ne_eq_concat hne
    obtain ⟨front, hcontent, hfront⟩ := Text.dropWhile_ne_eq_cons_iff.1 htail
    obtain ⟨rest, htaken, hrest⟩ := Text.dropWhileEnd_ne_eq_concat_iff.1 hopened
    rw [hopened]
    rw [htail] at htaken
    cases opened with
    | nil => exact absurd (List.cons.inj htaken).1 (by decide)
    | cons c inner =>
        obtain ⟨rfl, rfl⟩ := List.cons.inj htaken
        exact ⟨⟨inner, rfl⟩, front, rest, by simp [hcontent], hfront, hrest⟩
  · rintro ⟨⟨inner, rfl⟩, front, rest, rfl, hfront, hrest⟩
    refine ⟨?_, by simp⟩
    have htail : (front ++ '\x7b' :: (inner ++ ['\x7d']) ++ rest).dropWhile (· != '\x7b') =
        '\x7b' :: (inner ++ '\x7d' :: rest) :=
      Text.dropWhile_ne_eq_cons_iff.2 ⟨front, by simp, hfront⟩
    rw [htail, ← List.cons_append]
    exact Text.dropWhileEnd_ne_eq_concat_iff.2 ⟨rest, rfl, hrest⟩

/-! ## The object -/

/-- Whether the fields of an object give the name of a decision: the decision is given once, as a
text, and the reason at most once, as a text or null. -/
structure NamesDecision (fields : List (String × Json)) (name : String) : Prop where
  once : Record.GivenOnce ["decision", "reason"] fields
  decision : ("decision", .text name) ∈ fields
  reason : ∀ reason, ("reason", reason) ∈ fields → reason = .null ∨ ∃ text, reason = .text text

/-- A required text is read if the record gives it as a text. -/
theorem required_text_iff (record : Record) (field text : String) :
    record.required field Decoder.text = .ok text ↔ record.get? field = some (.text text) := by
  rw [Record.required]
  cases record.get? field with
  | none => simp
  | some value => cases value <;> simp [Decoder.text]

/-- An optional text is read if the record does not give it as anything else. -/
theorem defaulted_text_iff (record : Record) (field : String) :
    (∃ given, record.defaulted field (Decoder.option Decoder.text) none = .ok given) ↔
      ∀ value, record.get? field = some value → value = .null ∨ ∃ text, value = .text text := by
  rw [Record.defaulted]
  cases record.get? field with
  | none => simp
  | some value => cases value <;> simp [Decoder.option, Decoder.text, Except.map]

/-- The name of a decision is read off a record whose reason can be read as well. -/
theorem namedDecision_eq_ok_iff (value : Json) (name : String) :
    namedDecision value = .ok name ↔
      ∃ record, Record.read ["decision", "reason"] value = .ok record ∧
        (∃ reason, record.defaulted "reason" (Decoder.option Decoder.text) none = .ok reason) ∧
        record.required "decision" Decoder.text = .ok name := by
  simp only [namedDecision, bind, Except.bind]
  cases Record.read ["decision", "reason"] value with
  | error error => simp
  | ok record =>
      cases hreason : record.defaulted "reason" (Decoder.option Decoder.text) none <;>
        simp [hreason]

/-- An object gives the name of a decision by its fields, in any order. -/
theorem namedDecision_object_iff (fields : List (String × Json)) (name : String) :
    namedDecision (.object fields) = .ok name ↔ NamesDecision fields name := by
  have hfound : Record.GivenOnce ["decision", "reason"] fields →
      ∀ field ∈ ["decision", "reason"], ∀ value,
        (Record.mk false (fields.filter fun field => ["decision", "reason"].contains field.1)).get?
          field = some value ↔ (field, value) ∈ fields :=
    fun honce field hfield => Record.get?_eq_some_iff honce hfield
  simp only [namedDecision_eq_ok_iff, required_text_iff, defaulted_text_iff,
    Record.read_object_iff]
  constructor
  · rintro ⟨_, ⟨honce, rfl⟩, hreason, hdecision⟩
    refine ⟨honce, (hfound honce _ (by simp) _).1 hdecision, fun reason hmem => ?_⟩
    exact hreason reason ((hfound honce _ (by simp) reason).2 hmem)
  · rintro ⟨honce, hdecision, hreason⟩
    refine ⟨_, ⟨honce, rfl⟩, fun reason hget => ?_, (hfound honce _ (by simp) _).2 hdecision⟩
    exact hreason reason ((hfound honce _ (by simp) reason).1 hget)

/-- What is unreadable names no decision. -/
theorem eq_object_of_namedDecision {value : Json} {name : String} (hvalue : value.IsObject)
    (hname : namedDecision value = .ok name) :
    ∃ fields, value = .object fields ∧ NamesDecision fields name := by
  cases hvalue with
  | object fields => exact ⟨fields, rfl, (namedDecision_object_iff fields name).1 hname⟩
  | unreadable => cases hname

/-! ## The verdict -/

/-- The names of decisions. -/
theorem decisionOfName?_eq_some_iff (name : String) (decision : Decision) :
    decisionOfName? name = some decision ↔
      (decision = .accept ∧ name ∈ ["accept", "pass"]) ∨
        (decision = .retryAll ∧ name ∈ ["retry_all", "retryall", "refine"]) := by
  have hdistinct : name ∈ ["accept", "pass"] → name ∉ ["retry_all", "retryall", "refine"] := by
    simp only [List.mem_cons, List.not_mem_nil, or_false]
    rintro (rfl | rfl) <;> decide
  simp only [decisionOfName?, List.contains_iff_mem]
  split
  · rename_i haccept
    simp [haccept, hdistinct haccept, eq_comm]
  · split
    · rename_i haccept hretry
      simp [haccept, hretry, eq_comm]
    · rename_i haccept hretry
      simp [haccept, hretry]

/-- An answer has a verdict exactly if an object between its outermost braces names a decision. -/
theorem verdict?_eq_some_iff (content : String) (decision : Decision) :
    verdict? content = some decision ↔
      ∃ part fields name, IsOutermost part content.toList ∧
        Json.read? (String.ofList part) = some (.object fields) ∧ NamesDecision fields name ∧
        decisionOfName? (normalName name) = some decision := by
  have hok : ∀ value name, (namedDecision value).toOption = some name ↔
      namedDecision value = .ok name := by
    intro value name
    cases namedDecision value <;> simp [Except.toOption]
  simp only [verdict?, Option.bind_eq_bind, Option.bind_eq_some_iff, objectSlice?_eq_some_iff, hok]
  constructor
  · rintro ⟨part, hpart, value, hread, name, hname, hdecision⟩
    have hvalue : value.IsObject := by
      obtain ⟨inner, rfl⟩ := hpart.1
      exact Json.isObject_of_read? hread
    obtain ⟨fields, rfl, hnames⟩ := eq_object_of_namedDecision hvalue hname
    exact ⟨part, fields, name, hpart, hread, hnames, hdecision⟩
  · rintro ⟨part, fields, name, hpart, hread, hnames, hdecision⟩
    exact ⟨part, hpart, _, hread, name, (namedDecision_object_iff fields name).2 hnames, hdecision⟩

/-- No answer is taken for a selective retry. -/
theorem verdict?_ne_retrySubset (content : String) : verdict? content ≠ some .retrySubset := by
  intro hretry
  obtain ⟨_, _, name, _, _, _, hname⟩ := (verdict?_eq_some_iff _ _).1 hretry
  simp [decisionOfName?_eq_some_iff] at hname

/-- Prose around the outermost braces does not matter. -/
theorem verdict?_append {front object rest : String} (hobject : Braced object.toList)
    (hfront : '\x7b' ∉ front.toList) (hrest : '\x7d' ∉ rest.toList) :
    verdict? (front ++ object ++ rest) = verdict? object := by
  have hwhole : objectSlice? (front ++ object ++ rest).toList = some object.toList :=
    (objectSlice?_eq_some_iff _ _).2
      ⟨hobject, front.toList, rest.toList, by simp, hfront, hrest⟩
  have halone : objectSlice? object.toList = some object.toList :=
    (objectSlice?_eq_some_iff _ _).2 ⟨hobject, [], [], by simp, by simp, by simp⟩
  rw [verdict?, verdict?, hwhole, halone]

/-- Prose in front of the first opening brace and behind the last closing brace does not matter, and
what is read in between is what a search for the first and longest part in braces finds.  An answer
has a verdict exactly if this part is an object that names a decision, and the verdict is never a
selective retry. -/
theorem verdict_extraction :
    (∀ front object rest : String, Braced object.toList → '\x7b' ∉ front.toList →
      '\x7d' ∉ rest.toList → verdict? (front ++ object ++ rest) = verdict? object) ∧
    (∀ content part, objectSlice? content = some part ↔ IsFirstLongest part content) ∧
    (∀ content decision, verdict? content = some decision ↔
      ∃ part fields name, IsOutermost part content.toList ∧
        Json.read? (String.ofList part) = some (.object fields) ∧ NamesDecision fields name ∧
        ((decision = .accept ∧ normalName name ∈ ["accept", "pass"]) ∨
          (decision = .retryAll ∧ normalName name ∈ ["retry_all", "retryall", "refine"]))) ∧
    ∀ content, verdict? content ≠ some .retrySubset := by
  refine ⟨fun front object rest => verdict?_append, fun content part => ?_,
    fun content decision => ?_, verdict?_ne_retrySubset⟩
  · rw [objectSlice?_eq_some_iff, isFirstLongest_iff]
  · simp only [verdict?_eq_some_iff, decisionOfName?_eq_some_iff]

end Judge

/-! ## An answer with a code fence -/

namespace FencedAnswer

/-- The object of the answer.  Its fields are in the wrong order, one is not declared, and the
decision is written with an escape, in capitals and with blanks. -/
def object : String :=
  "\x7b\"votes\": \x7b\"for\": [1]\x7d, \"reason\": null, \"decision\": \" R\\u0045TRY-all\\n\"\x7d"

def front : String := "Überprüft:\n```json\n"

def rest : String := "\n```\n"

end FencedAnswer

namespace Judge

/-- The fence does not matter, and the verdict is to retry everything. -/
theorem verdict_extraction_fenced :
    verdict? (FencedAnswer.front ++ FencedAnswer.object ++ FencedAnswer.rest) =
        verdict? FencedAnswer.object ∧
      verdict? FencedAnswer.object = some .retryAll := by
  have hobject : Braced FencedAnswer.object.toList :=
    ⟨FencedAnswer.object.toList.tail.dropLast, by decide +kernel⟩
  exact ⟨verdict_extraction.1 _ _ _ hobject (by decide +kernel) (by decide +kernel),
    by decide +kernel⟩

end Judge
end CodeSurvey
