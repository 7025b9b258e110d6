import CodeSurvey.Linking.Layer
import CodeSurvey.Proofs.Text.Blank

/-!
# Roles and layers

A file name may end in a suffix that names a role, and this role belongs to a layer.  The stem of the
file is the name without this suffix.  Its layer, however, is looked for in the whole name: it is the
layer of the role unless the name contains a word of a layer that is looked for earlier.

## Main results

* `Stem.ofId_of_role`: the stem of a file is its name without the role.
* `Layer.ofName_eq_or`: the layer of a name with a word of a known layer.
* `Layer.detect_of_role`: the files that lie in the layer of their role.
-/

namespace CodeSurvey

/-! ## The first entry that matches -/

/-- A search that succeeds at an entry finds it or something before it. -/
theorem find?_eq_or {α β : Type} [DecidableEq β] (key : α → β) {p : α → Bool} {entries : List α}
    {entry : α} (hentry : entry ∈ entries) (hp : p entry = true)
    (hkeys : (entries.map key).Nodup) :
    entries.find? p =
      ((entries.takeWhile fun other => key other ≠ key entry).find? p).or (some entry) := by
  induction entries with
  | nil => cases hentry
  | cons first rest ih =>
      rw [List.map_cons, List.nodup_cons] at hkeys
      rcases List.mem_cons.1 hentry with rfl | hrest
      · rw [List.find?_cons_of_pos hp, List.takeWhile_cons_of_neg (by simp), List.find?_nil,
          Option.none_or]
      · have hne : key first ≠ key entry :=
          fun heq => hkeys.1 (heq ▸ List.mem_map_of_mem hrest)
        rw [List.takeWhile_cons_of_pos (by simpa using hne)]
        cases hfirst : p first with
        | true => rw [List.find?_cons_of_pos hfirst, List.find?_cons_of_pos hfirst, Option.some_or]
        | false =>
            rw [List.find?_cons_of_neg (by simp [hfirst]), List.find?_cons_of_neg (by simp [hfirst])]
            exact ih hrest hkeys.2

namespace Layer

/-- The suffixes that name a role after an underscore, and the layers of these roles. -/
def roles : List (String × Layer) := [
  ("_service", .service), ("_controller", .presentation), ("_repository", .repository),
  ("_repo", .repository), ("_model", .domain), ("_dto", .domain), ("_view", .presentation)]

/-- The layers that are looked for before a layer, with their words. -/
def keywordsBefore (layer : Layer) : List (Layer × List String) :=
  keywords.takeWhile fun entry => entry.1 ≠ layer

/-- Whether a name contains a word of a layer that is looked for before a layer. -/
def PrecededIn (name : String) (layer : Layer) : Prop :=
  ∃ entry ∈ keywordsBefore layer, ∃ word ∈ entry.2, word.toList <:+: name.toList

variable {name : String} {layer : Layer} {words : List String}

theorem any_hasInfix_iff :
    words.any (Text.hasInfix name) = true ↔ ∃ word ∈ words, word.toList <:+: name.toList := by
  simp only [List.any_eq_true, Text.hasInfix_iff]

/-- A name with a word of a layer lies in this layer, or in one that is looked for before. -/
theorem ofName_eq_or (hwords : (layer, words) ∈ keywords)
    (hname : ∃ word ∈ words, word.toList <:+: name.toList) :
    (ofName name = layer ∧ ¬ PrecededIn name layer) ∨
      (ofName name ∈ (keywordsBefore layer).map Prod.fst ∧ PrecededIn name layer) := by
  have hfind : keywords.find? (fun entry => entry.2.any (Text.hasInfix name)) =
      ((keywordsBefore layer).find? fun entry => entry.2.any (Text.hasInfix name)).or
        (some (layer, words)) :=
    find?_eq_or Prod.fst hwords (any_hasInfix_iff.2 hname) (by decide)
  rw [ofName, hfind]
  cases hbefore : (keywordsBefore layer).find? fun entry => entry.2.any (Text.hasInfix name) with
  | none =>
      refine .inl ⟨rfl, ?_⟩
      rintro ⟨entry, hentry, hword⟩
      exact List.find?_eq_none.1 hbefore entry hentry (any_hasInfix_iff.2 hword)
  | some entry =>
      have hentry := List.mem_of_find?_eq_some hbefore
      have hword : entry.2.any (Text.hasInfix name) = true := by
        simpa using List.find?_some hbefore
      exact .inr ⟨List.mem_map_of_mem hentry, entry, hentry, any_hasInfix_iff.1 hword⟩

theorem notMem_keywordsBefore (layer : Layer) : layer ∉ (keywordsBefore layer).map Prod.fst := by
  cases layer <;> decide

/-- A name with a word of a layer lies in this layer exactly if no layer that is looked for before has
a word in it. -/
theorem ofName_eq_iff (hwords : (layer, words) ∈ keywords)
    (hname : ∃ word ∈ words, word.toList <:+: name.toList) :
    ofName name = layer ↔ ¬ PrecededIn name layer := by
  rcases ofName_eq_or hwords hname with ⟨heq, hpreceded⟩ | ⟨hbefore, hpreceded⟩
  · exact iff_of_true heq hpreceded
  · refine iff_of_false ?_ (not_not_intro hpreceded)
    rintro rfl
    exact notMem_keywordsBefore _ hbefore

/-- Every role is told by a word of its layer. -/
theorem exists_word_of_role {suffix : String} (h : (suffix, layer) ∈ roles) :
    ∃ words, (layer, words) ∈ keywords ∧ ∃ word ∈ words, word.toList <:+: suffix.toList := by
  have hroles : ∀ role ∈ roles, ∃ entry ∈ keywords, entry.1 = role.2 ∧
      entry.2.any (Text.hasInfix role.1) = true := by
    decide
  obtain ⟨⟨_, words⟩, hentry, rfl, hword⟩ := hroles _ h
  exact ⟨words, hentry, any_hasInfix_iff.1 hword⟩

end Layer

/-! ## Stems -/

namespace Stem

theorem prefix_of_beforeLastDot {name front : List Char} (h : beforeLastDot name = some front) :
    front <+: name := by
  induction name generalizing front with
  | nil => cases h
  | cons c cs ih =>
      rw [beforeLastDot] at h
      split at h
      · rename_i rest hrest
        cases h
        exact (List.prefix_cons_inj c).2 (ih hrest)
      · split at h
        · cases h
          exact List.nil_prefix
        · cases h

/-- The name without its extension is a beginning of the name. -/
theorem withoutExtension_prefix (name : List Char) : withoutExtension name <+: name := by
  rw [withoutExtension]
  split
  · rename_i hfront
    exact prefix_of_beforeLastDot hfront
  · exact List.prefix_rfl

/-- No suffix that is looked for before that of a role ends in it, or is an end of it. -/
theorem not_suffix_of_role {suffix : String} {layer : Layer} {other : List Char}
    (h : (suffix, layer) ∈ Layer.roles)
    (hother : other ∈ (roleSuffixes.map String.toList).takeWhile (· ≠ suffix.toList)) :
    ¬ other <:+ suffix.toList ∧ ¬ suffix.toList <:+ other := by
  have hroles : ∀ role ∈ Layer.roles,
      ∀ other ∈ (roleSuffixes.map String.toList).takeWhile (· ≠ role.1.toList),
        ¬ other <:+ role.1.toList ∧ ¬ role.1.toList <:+ other := by
    decide
  exact hroles _ h other hother

/-- A name that ends in a role loses exactly this suffix. -/
theorem withoutSuffix_append {suffix : String} {layer : Layer} (h : (suffix, layer) ∈ Layer.roles)
    (base : List Char) :
    withoutSuffix (roleSuffixes.map String.toList) (base ++ suffix.toList) = base := by
  have hmem : ∀ role ∈ Layer.roles, role.1.toList ∈ roleSuffixes.map String.toList := by decide
  have hfind := find?_eq_or id (p := fun other => other.isSuffixOf (base ++ suffix.toList))
    (hmem _ h) (List.isSuffixOf_iff_suffix.2 (List.suffix_append ..)) (by decide)
  -- Two ends of one name are comparable, and no earlier suffix is comparable with that of the role.
  have hbefore : ((roleSuffixes.map String.toList).takeWhile (· ≠ suffix.toList)).find?
      (fun other => other.isSuffixOf (base ++ suffix.toList)) = none := by
    refine List.find?_eq_none.2 fun other hother hend => ?_
    obtain ⟨hshorter, hlonger⟩ := not_suffix_of_role h hother
    exact (List.suffix_or_suffix_of_suffix (List.isSuffixOf_iff_suffix.1 hend)
      (List.suffix_append ..)).elim hshorter hlonger
  simp only [id_eq] at hfind
  rw [withoutSuffix, hfind, hbefore, Option.none_or]
  simp

/-- The stem of a file is its name without the role. -/
theorem ofId_of_role {id : EntityId} {suffix : String} {layer : Layer} {base : List Char}
    (h : (suffix, layer) ∈ Layer.roles)
    (hname : withoutExtension (Text.lowercase id.label).toList = base ++ suffix.toList) :
    ofId id = String.ofList base := by
  rw [ofId, ofName, hname, withoutSuffix_append h]

end Stem

/-! ## Layers and stems -/

namespace Layer

/-- A file whose name ends in a role has the name without this suffix as its stem.  It lies in the
layer of the role exactly if its name, with the extension, contains no word of a layer that is looked
for earlier; otherwise it lies in such a layer. -/
theorem detect_of_role {id : EntityId} {suffix : String} {layer : Layer} {base : List Char}
    (hrole : (suffix, layer) ∈ roles)
    (hname : Stem.withoutExtension (Text.lowercase id.label).toList = base ++ suffix.toList) :
    Stem.ofId id = String.ofList base ∧
      (detect id = layer ↔ ¬ PrecededIn (Text.lowercase id.label) layer) ∧
      (detect id = layer ∨ detect id ∈ (keywordsBefore layer).map Prod.fst) := by
  obtain ⟨words, hwords, word, hword, hinfix⟩ := exists_word_of_role hrole
  have hsuffix : suffix.toList <:+: (Text.lowercase id.label).toList := by
    refine List.IsInfix.trans ?_ (Stem.withoutExtension_prefix _).isInfix
    rw [hname]
    exact (List.suffix_append ..).isInfix
  have hcontains : ∃ word ∈ words, word.toList <:+: (Text.lowercase id.label).toList :=
    ⟨word, hword, hinfix.trans hsuffix⟩
  exact ⟨Stem.ofId_of_role hrole hname, ofName_eq_iff hwords hcontains,
    (ofName_eq_or hwords hcontains).imp And.left And.left⟩

/-- A service lies in its layer, whatever precedes the role. -/
theorem detect_of_role_service :
    Stem.ofId ⟨"app/model_service.py"⟩ = "model" ∧ detect ⟨"app/model_service.py"⟩ = .service := by
  have hrole : ("_service", Layer.service) ∈ roles := by decide
  have hname : Stem.withoutExtension
      (Text.lowercase (EntityId.mk "app/model_service.py").label).toList =
        "model".toList ++ "_service".toList := by
    decide +kernel
  obtain ⟨hstem, hlayer, _⟩ := detect_of_role hrole hname
  refine ⟨hstem, hlayer.2 ?_⟩
  rintro ⟨entry, hentry, _⟩
  cases hentry

/-- Not every file lies in the layer of its role: a review contains a view. -/
theorem detect_other_than_role :
    ¬ ∀ id : EntityId, id.isNested = false → ∀ role ∈ roles, ∀ base : List Char,
      Stem.withoutExtension (Text.lowercase id.label).toList = base ++ role.1.toList →
      detect id = role.2 := by
  intro h
  have hlayer := h ⟨"app/review_model.py"⟩ (by decide +kernel) ("_model", .domain) (by decide)
    "review".toList (by decide +kernel)
  revert hlayer
  decide +kernel

end Layer
end CodeSurvey
