import CodeSurvey.Proofs.Settings.Check
import CodeSurvey.Proofs.Settings.Document
import CodeSurvey.Proofs.Settings.VariableFile
import CodeSurvey.Settings.Load

/-!
# The layers of settings

A field is what the environment says of it, else what the document says that counts, else its
default.  The environment comes before the file of variables, name by name: a text in the environment
that makes no sense still hides the one in the file.  Of two documents only one counts, and the other
one is not even read.

## Main definitions

* `Settings.Sources.visible`: the variables with the values that count.
* `Settings.Sources.Gives`: the document that counts.
* `Settings.Layered`: settings whose fields come from the layers.

## Main results

* `Settings.Sources.extendedEnvironment_eq`, `Settings.Sources.document_of_gives`: the two layers.
* `Settings.load_layers`: which settings are loaded, and when there are none.
-/

namespace CodeSurvey
namespace Settings
namespace Sources

/-! ## Variables -/

/-- The lines of the file of variables, which are none if there is no such file. -/
def lines (sources : Sources) : List (List UInt8) :=
  match sources.variableFile with
  | some (.file bytes) => VariableFile.linesFrom [] bytes.toList
  | _ => []

/-- The variables in the file of variables. -/
def written (sources : Sources) : List (String × String) :=
  VariableFile.bindings sources.environment sources.lines

/-- The variables with the values that count. -/
def visible (sources : Sources) : Environment := fun name =>
  (sources.environment name).or (sources.written.lookup name)

/-- Whether the file gives a variable a value that no environment holds. -/
def Unsettable (sources : Sources) : Prop :=
  VariableFile.Unsettable sources.environment sources.written

/-! ## Documents -/

/-- The file with the document that counts, which is the one in the working directory if it is
there. -/
def chosen? (sources : Sources) : Option FileTree :=
  sources.workingDocument.or sources.homeDocument

/-- What the document that counts says, which is nothing if there is none. -/
inductive Gives (sources : Sources) : Option Json → Prop
  | nothing (h : sources.chosen? = none) : sources.Gives none
  | document {tree : FileTree} {document : Json} (h : sources.chosen? = some tree)
      (hdocument : IsDocument tree document) : sources.Gives (some document)

end Sources

/-- Whether every field of settings is what an environment says of it, else what a document says,
else its default. -/
def Layered (environment : Environment) (content : Option Json) (settings : Settings) : Prop :=
  ∀ (α : Type) (field : Field α), field.get settings =
    ((field.fromEnvironment? environment).or (content.bind field.fromDocument?)).getD
      (field.get .default)

namespace Sources

variable {sources : Sources} {content : Option Json} {settings : Settings}

theorem extendedEnvironment_eq_match (sources : Sources) :
    sources.extendedEnvironment =
      match VariableFile.extendLines? sources.environment sources.lines with
      | some environment => .ok environment
      | none => .error .unsettable := by
  unfold extendedEnvironment lines
  cases sources.variableFile with
  | none => rfl
  | some tree =>
      cases tree with
      | directory parts => rfl
      | file bytes => rfl

/-- The file of variables extends the environment, unless a variable cannot be set. -/
theorem extendedEnvironment_eq (sources : Sources) :
    (sources.Unsettable → sources.extendedEnvironment = .error .unsettable) ∧
    (¬ sources.Unsettable → sources.extendedEnvironment = .ok sources.visible) := by
  obtain ⟨hnone, hsome⟩ := VariableFile.extendLines?_eq sources.environment sources.lines
  rw [extendedEnvironment_eq_match]
  constructor
  · intro h
    rw [hnone h]
  · intro h
    rw [hsome h]
    rfl

theorem document_eq (sources : Sources) :
    (sources.chosen? = none ∧ sources.document = .ok .default) ∨
    ∃ tree path, sources.chosen? = some tree ∧ sources.document = ofFile path (some tree) := by
  unfold chosen? document
  cases sources.workingDocument with
  | some tree => exact .inr ⟨tree, workingPath, rfl, rfl⟩
  | none =>
      cases sources.homeDocument with
      | some tree => exact .inr ⟨tree, homePath, rfl, rfl⟩
      | none => exact .inl ⟨rfl, rfl⟩

/-- The settings of the document that counts. -/
theorem document_of_gives (h : sources.Gives content) :
    ∃ settings, sources.document = .ok settings ∧
      ∀ (α : Type) (field : Field α),
        field.get settings = (content.bind field.fromDocument?).getD (field.get .default) := by
  obtain ⟨hchosen, hdocument⟩ | ⟨tree, path, hchosen, hdocument⟩ := sources.document_eq
  · cases h with
    | nothing h => exact ⟨.default, hdocument, fun α field => rfl⟩
    | document h => simp [hchosen] at h
  · cases h with
    | nothing h => simp [hchosen] at h
    | document h hcontent =>
        rw [hchosen, Option.some.injEq] at h
        subst h
        obtain ⟨text, htree, hread, settings, hdecode⟩ := hcontent
        refine ⟨settings, ?_, fun α field => field.get_of_decodeAs hdecode⟩
        rw [hdocument, ofFile_eq_ok_iff]
        exact ⟨text, htree, ofDocument_eq_ok_iff.2 ⟨_, hread, hdecode⟩⟩

theorem exists_gives (h : sources.document = .ok settings) : ∃ content, sources.Gives content := by
  obtain ⟨hchosen, -⟩ | ⟨tree, path, hchosen, hdocument⟩ := sources.document_eq
  · exact ⟨none, .nothing hchosen⟩
  · rw [hdocument, ofFile_eq_ok_iff] at h
    obtain ⟨text, htree, hread⟩ := h
    obtain ⟨document, hdocument, hdecode⟩ := ofDocument_eq_ok_iff.1 hread
    exact ⟨some document, .document hchosen ⟨text, htree, hdocument, settings, hdecode⟩⟩

end Sources

section Loading

variable {sources : Sources} {content : Option Json} {settings : Settings}

/-- The environment comes before the document. -/
theorem layered_withEnvironment (environment : Environment)
    (h : ∀ (α : Type) (field : Field α),
      field.get settings = (content.bind field.fromDocument?).getD (field.get .default)) :
    Layered environment content (settings.withEnvironment environment) := by
  intro α field
  rw [Field.get_withEnvironment, h]
  cases field.fromEnvironment? environment with
  | none => rfl
  | some x => rfl

/-- There are no settings if the file of variables cannot be used, and none if the document that
counts is none.  Otherwise every field is what the variables say, else what the document says, else
its default, and the settings are loaded exactly if they are valid. -/
theorem load_layers (sources : Sources) :
    (sources.Unsettable → load sources = .error .unsettable) ∧
    ((¬ ∃ content, sources.Gives content) → ∃ error, load sources = .error error) ∧
    ∀ content, sources.Gives content → ¬ sources.Unsettable →
      ∃ formed, Layered sources.visible content formed ∧
        ∀ result, load sources = .ok result ↔ result = formed ∧ formed.Valid := by
  obtain ⟨hunsettable, hsettable⟩ := sources.extendedEnvironment_eq
  unfold load
  refine ⟨?_, ?_, ?_⟩
  · intro h
    rw [hunsettable h]
    rfl
  · intro hgives
    cases hdocument : sources.document with
    | ok settings => exact absurd (Sources.exists_gives hdocument) hgives
    | error error =>
        cases sources.extendedEnvironment with
        | ok environment => exact ⟨error, rfl⟩
        | error error => exact ⟨error, rfl⟩
  · intro content hgives h
    obtain ⟨settings, hdocument, hfields⟩ := Sources.document_of_gives hgives
    rw [hsettable h, hdocument]
    exact ⟨settings.withEnvironment sources.visible, layered_withEnvironment _ hfields,
      fun result => checked_eq_ok_iff⟩

end Loading

end Settings

/-! ## Four sources -/

namespace FourSources

/-- The text of the document in the working directory. -/
def text : String := "[pipeline]\nmax_retries = 4\n"

/-- A number is told by all four sources.  What the environment has is no number, but it hides the
file of variables, and the document in the home directory is not read. -/
def sources : Settings.Sources where
  workingDocument := some (.file text.toUTF8)
  homeDocument := some (.file "[pipeline]\nmax_retries = 5\n[logging]\nlevel = \"warn\"\n".toUTF8)
  variableFile := some (.file "REPOLENS_MAX_RETRIES=7\nREPOLENS_MAX_FILES=9\n".toUTF8)
  environment := fun name => if name = "REPOLENS_MAX_RETRIES" then some "many" else none

theorem settable : ¬ sources.Unsettable := by
  intro h
  have hsome : sources.extendedEnvironment.toOption.isSome = true := by
    decide +kernel
  rw [sources.extendedEnvironment_eq.1 h] at hsome
  cases hsome

theorem gives : sources.Gives (Toml.read? text) := by
  have hdecode : ((Toml.read? text).bind fun document =>
      (Settings.decodeAs .document document).toOption).isSome = true := by
    decide +kernel
  cases hread : Toml.read? text with
  | none => simp [hread] at hdecode
  | some document =>
      cases hsettings : Settings.decodeAs .document document with
      | error error => simp [hread, hsettings, Except.toOption] at hdecode
      | ok settings => exact .document rfl ⟨text, rfl, hread, settings, hsettings⟩

end FourSources

namespace Settings

/-- The number in the document counts, the number of files in the file of variables, and the default
level. -/
theorem load_layers_four_sources :
    ∃ settings, load FourSources.sources = .ok settings ∧ Field.maxRetries.get settings = 4 ∧
      Field.maxFiles.get settings = 9 ∧ Field.logLevel.get settings = "info" := by
  obtain ⟨-, -, hgives⟩ := load_layers FourSources.sources
  obtain ⟨formed, hlayers, hload⟩ := hgives _ FourSources.gives FourSources.settable
  have hsome : (load FourSources.sources).toOption.isSome = true := by
    decide +kernel
  cases hresult : load FourSources.sources with
  | error error => simp [hresult, Except.toOption] at hsome
  | ok settings =>
      obtain ⟨rfl, -⟩ := (hload settings).1 hresult
      refine ⟨settings, rfl, ?_, ?_, ?_⟩
      · rw [hlayers _ .maxRetries]
        decide +kernel
      · rw [hlayers _ .maxFiles]
        decide +kernel
      · rw [hlayers _ .logLevel]
        decide +kernel

end Settings
end CodeSurvey
