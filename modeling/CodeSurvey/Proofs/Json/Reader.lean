import CodeSurvey.Json.Reader

/-!
# Texts that begin with a brace

A text is cut into tokens by one machine, and the tokens are read by another one with a stack of
unfinished arrays and objects.  If the first character is an opening brace, an object lies at the
bottom of the stack until it is closed, and nothing may follow then.  So the text holds this object,
or something unreadable where a key of the object is no Unicode text; it never holds anything else.

## Main results

* `Json.Token.scan?_openBrace`: the first token of such a text.
* `Json.State.Rooted.step`: the object stays at the bottom of the stack.
* `Json.isObject_of_read?`: such a text holds an object.
-/

namespace CodeSurvey
namespace Json

/-! ## Tokens -/

namespace Token

/-- What has been found already stands before the tokens of the rest. -/
theorem scanFrom_eq_map (mode : Mode) (found : List Token) (cs : List Char) :
    scanFrom mode found cs = (scanFrom mode [] cs).map fun tokens => found.reverse ++ tokens := by
  induction cs generalizing mode found with
  | nil => simp [scanFrom]
  | cons c cs ih =>
      rw [scanFrom, scanFrom]
      cases step mode c with
      | none => rfl
      | some next =>
          simp only [List.append_nil]
          rw [ih, ih next.1 next.2.reverse, Option.map_map]
          simp [Function.comp_def]

/-- An opening brace is a token of its own. -/
theorem scan?_openBrace (cs : List Char) :
    scan? (String.ofList ('\x7b' :: cs)) =
      (scan? (String.ofList cs)).map fun tokens => openBrace :: tokens := by
  have hfirst : step .between '\x7b' = some (.between, [openBrace]) := by decide
  rw [scan?, scan?, String.toList_ofList, String.toList_ofList, scanFrom, hfirst]
  exact scanFrom_eq_map ..

end Token

/-! ## The object at the bottom of the stack -/

/-- A value is an object, or what becomes of an object with an unreadable key. -/
inductive IsObject : Json → Prop where
  | object (fields : List (String × Json)) : IsObject (.object fields)
  | unreadable : IsObject .unreadable

/-- Whether an unfinished object lies at the bottom of a stack. -/
def RootedInObject (stack : List Frame) : Prop :=
  ∃ fields key readable, stack.getLast? = some (.object fields key readable)

/-- Whether the machine is inside an object, or has finished it. -/
def State.Rooted : State → Prop
  | .value stack | .firstItem stack | .firstKey stack | .key stack => RootedInObject stack
  | .colon stack | .next stack => RootedInObject stack
  | .finished result => IsObject result

/-- A stack with an object at its bottom is not empty. -/
theorem RootedInObject.ne_nil {stack : List Frame} (h : RootedInObject stack) : stack ≠ [] := by
  rintro rfl
  obtain ⟨_, _, _, hlast⟩ := h
  cases hlast

/-- Another frame on top leaves the object at the bottom. -/
theorem RootedInObject.push {stack : List Frame} (h : RootedInObject stack) (frame : Frame) :
    RootedInObject (frame :: stack) := by
  obtain ⟨fields, key, readable, hlast⟩ := h
  exact ⟨fields, key, readable, by rw [List.getLast?_cons, hlast]; rfl⟩

/-- Below an unfinished array lies the object. -/
theorem RootedInObject.below_array {items : List Json} {stack : List Frame}
    (h : RootedInObject (.array items :: stack)) : RootedInObject stack := by
  cases stack with
  | nil =>
      obtain ⟨_, _, _, hlast⟩ := h
      cases hlast
  | cons frame stack =>
      obtain ⟨fields, key, readable, hlast⟩ := h
      exact ⟨fields, key, readable, by rwa [List.getLast?_cons_cons] at hlast⟩

/-- An unfinished object on top of the stack may be replaced by any other one. -/
theorem RootedInObject.replace {fields newFields : List (String × Json)} {key newKey : Option String}
    {readable newReadable : Bool} {stack : List Frame}
    (h : RootedInObject (.object fields key readable :: stack)) :
    RootedInObject (.object newFields newKey newReadable :: stack) := by
  cases stack with
  | nil => exact ⟨newFields, newKey, newReadable, rfl⟩
  | cons frame stack =>
      obtain ⟨fields, key, readable, hlast⟩ := h
      rw [List.getLast?_cons_cons] at hlast
      exact ⟨fields, key, readable, by rwa [List.getLast?_cons_cons]⟩

/-- An object that is finished is an object, or unreadable for one of its keys. -/
theorem isObject_frameValue (fields : List (String × Json)) (key : Option String)
    (readable : Bool) : IsObject (Frame.object fields key readable).value := by
  cases readable
  · exact .unreadable
  · exact .object _

/-! ## What the machine does -/

/-- A value inside the object leaves the object where it is. -/
theorem rooted_deliver {stack : List Frame} (h : RootedInObject stack) (value : Json) :
    (deliver value stack).Rooted := by
  cases stack with
  | nil => exact absurd rfl h.ne_nil
  | cons frame stack =>
      cases frame with
      | array items => exact h.below_array.push _
      | object fields key readable => exact h.replace

/-- Closing what is on top of the stack closes something inside the object, or the object. -/
theorem rooted_close {frame : Frame} {stack : List Frame} (h : RootedInObject (frame :: stack)) :
    (deliver frame.value stack).Rooted := by
  cases stack with
  | nil =>
      cases frame with
      | array items => exact absurd rfl h.below_array.ne_nil
      | object fields key readable => exact isObject_frameValue fields key readable
  | cons next stack =>
      obtain ⟨fields, key, readable, hlast⟩ := h
      rw [List.getLast?_cons_cons] at hlast
      exact rooted_deliver ⟨fields, key, readable, hlast⟩ _

/-- A machine inside an object is still inside it, or has finished it, after a value. -/
theorem rooted_stepValue {stack : List Frame} (h : RootedInObject stack) {token : Token}
    {next : State} (hstep : stepValue stack token = some next) : next.Rooted := by
  cases token with
  | openBrace =>
      cases hstep
      exact h.push _
  | openBracket =>
      cases hstep
      exact h.push _
  | string content =>
      cases content <;> cases hstep <;> exact rooted_deliver h _
  | number digits =>
      obtain ⟨value, _, rfl⟩ := Option.map_eq_some_iff.1 hstep
      exact rooted_deliver h value
  | word letters =>
      obtain ⟨value, _, rfl⟩ := Option.map_eq_some_iff.1 hstep
      exact rooted_deliver h value
  | _ => cases hstep

/-- A machine inside an object is still inside it after a key. -/
theorem rooted_stepKey {stack : List Frame} (h : RootedInObject stack) {token : Token}
    {next : State} (hstep : stepKey stack token = some next) : next.Rooted := by
  cases token with
  | string content =>
      cases stack with
      | nil => exact absurd rfl h.ne_nil
      | cons frame stack =>
          cases frame with
          | array items => cases hstep
          | object fields key readable =>
              cases hstep
              exact h.replace
  | _ => cases hstep

/-- No token takes the machine out of the object but by finishing it. -/
theorem State.Rooted.step {state next : State} (h : state.Rooted) {token : Token}
    (hstep : state.step token = some next) : next.Rooted := by
  unfold State.step at hstep
  split at hstep
  · exact rooted_stepValue h hstep
  · split at hstep
    · cases hstep
      exact rooted_close h
    · exact rooted_stepValue h hstep
  · split at hstep
    · cases hstep
      exact rooted_close h
    · exact rooted_stepKey h hstep
  · exact rooted_stepKey h hstep
  · cases hstep
    exact h
  · cases hstep
    exact h
  · cases hstep
    exact rooted_close h
  · cases hstep
    exact h
  · cases hstep
    exact rooted_close h
  · cases hstep

/-- What is read by a machine inside an object is an object. -/
theorem isObject_of_readFrom {state : State} (h : state.Rooted) {tokens : List Token} {value : Json}
    (hread : readFrom state tokens = some value) : IsObject value := by
  induction tokens generalizing state with
  | nil =>
      cases state with
      | finished found =>
          cases hread
          exact h
      | _ => cases hread
  | cons token tokens ih =>
      rw [readFrom] at hread
      split at hread
      · rename_i next hstep
        exact ih (h.step hstep) hread
      · cases hread

/-- A text that begins with an opening brace holds an object, if it holds anything. -/
theorem isObject_of_read? {cs : List Char} {value : Json}
    (hread : read? (String.ofList ('\x7b' :: cs)) = some value) : IsObject value := by
  rw [read?, Token.scan?_openBrace, Option.bind_map] at hread
  obtain ⟨tokens, _, hread⟩ := Option.bind_eq_some_iff.1 hread
  have hopened : readFrom (.value []) (.openBrace :: tokens) =
      readFrom (.firstKey [.object [] none true]) tokens := rfl
  have hrooted : State.Rooted (.firstKey [.object [] none true]) := ⟨[], none, true, rfl⟩
  rw [Function.comp_apply, hopened] at hread
  exact isObject_of_readFrom hrooted hread

end Json
end CodeSurvey
