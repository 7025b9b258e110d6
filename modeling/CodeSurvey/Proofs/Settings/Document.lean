import CodeSurvey.Proofs.FileTree
import CodeSurvey.Proofs.Json.Field
import CodeSurvey.Proofs.Settings.Field
import CodeSurvey.Settings.Document

/-!
# What documents say

A document has one section for each group of fields.  What it says of a field stands in the section
of the field under its key; a field of which it says nothing has its default, and so has every field
of a section that is not there.

## Main definitions

* `Settings.Section`: the sections with their keys.
* `Settings.Field.fromSection?`, `Settings.Field.fromDocument?`: what a section and a document say of
  a field.
* `Settings.IsDocument`: the files that hold a document of settings.

## Main results

* `Settings.Field.get_of_decodeAs`: a field of the settings in a document.
* `Settings.ofFile_eq_ok_iff`: which files can be read.
-/

namespace CodeSurvey
namespace Settings

open Json (Decoder Record fieldAt? bind_eq_ok_iff)

/-! ## Sections -/

/-- A section of a document. -/
inductive Section where
  | pipeline
  | capabilities
  | ingest
  | logging

/-- The names of the sections in their order. -/
def Section.names : List String := ["pipeline", "capabilities", "ingest", "logging"]

/-- The name of a section. -/
def Section.name : Section → String
  | .pipeline => "pipeline"
  | .capabilities => "capabilities"
  | .ingest => "ingest"
  | .logging => "logging"

/-- The keys of a section in their order. -/
def Section.keys : Section → List String
  | .pipeline => [
      "max_retries", "systemic_threshold", "per_entity_threshold", "borderline_upper",
      "ensemble_mode", "evaluation_strategy", "min_summary_len", "error_markers", "neutral_score",
      "similarity_link_threshold"]
  | .capabilities => ["call_timeout_secs", "max_concurrent_calls"]
  | .ingest => ["max_files", "extensions", "exclude_dirs"]
  | .logging => ["level", "format"]

/-- Whether settings agree in the fields of a section. -/
def Section.Agrees : Section → Settings → Settings → Prop
  | .pipeline, settings, other => settings.policy = other.policy
  | .capabilities, settings, other => settings.limits = other.limits
  | .ingest, settings, other => settings.scan = other.scan
  | .logging, settings, other => settings.logging = other.logging

namespace Field

variable {α : Type}

/-- The section in which a field stands. -/
def group : {α : Type} → Field α → Section
  | _, .callTimeoutSecs | _, .maxConcurrentCalls => .capabilities
  | _, .maxFiles | _, .extensions | _, .excludedDirectories => .ingest
  | _, .logLevel | _, .logFormat => .logging
  | _, _ => .pipeline

/-- The key under which a field stands in its section. -/
def key : {α : Type} → Field α → String
  | _, .maxRetries => "max_retries"
  | _, .systemicThreshold => "systemic_threshold"
  | _, .perEntityThreshold => "per_entity_threshold"
  | _, .borderlineUpper => "borderline_upper"
  | _, .ensembleMode => "ensemble_mode"
  | _, .strategy => "evaluation_strategy"
  | _, .minSummaryLength => "min_summary_len"
  | _, .errorMarkers => "error_markers"
  | _, .neutralScore => "neutral_score"
  | _, .similarityLinkThreshold => "similarity_link_threshold"
  | _, .callTimeoutSecs => "call_timeout_secs"
  | _, .maxConcurrentCalls => "max_concurrent_calls"
  | _, .maxFiles => "max_files"
  | _, .extensions => "extensions"
  | _, .excludedDirectories => "exclude_dirs"
  | _, .logLevel => "level"
  | _, .logFormat => "format"

/-- How the content of a field is read. -/
def decode : {α : Type} → Field α → Decoder α
  | _, .maxRetries => Decoder.uint32
  | _, .systemicThreshold => Decoder.float32
  | _, .perEntityThreshold => Decoder.float32
  | _, .borderlineUpper => Decoder.float32
  | _, .ensembleMode => Decoder.bool
  | _, .strategy => StrategyKind.decodeAs .document
  | _, .minSummaryLength => Decoder.count
  | _, .errorMarkers => Decoder.listOf Decoder.text
  | _, .neutralScore => Decoder.float32
  | _, .similarityLinkThreshold => Decoder.float32
  | _, .callTimeoutSecs => Decoder.count
  | _, .maxConcurrentCalls => Decoder.count
  | _, .maxFiles => Decoder.count
  | _, .extensions => Decoder.listOf Decoder.text
  | _, .excludedDirectories => Decoder.listOf Decoder.text
  | _, .logLevel => Decoder.text
  | _, .logFormat => Decoder.text

/-- Fields of a section agree where the settings agree in that section. -/
theorem get_of_agrees {settings other : Settings} (field : Field α)
    (h : field.group.Agrees settings other) : field.get settings = field.get other := by
  cases field <;> simp_all [group, Section.Agrees, get]

/-- What the content of its section says of a field. -/
def fromSection? (field : Field α) (content : Json) : Option α :=
  (fieldAt? field.group.keys content field.key).bind fun value => (field.decode value).toOption

/-- What a document says of a field. -/
def fromDocument? (field : Field α) (document : Json) : Option α :=
  (fieldAt? Section.names document field.group.name).bind field.fromSection?

end Field

/-- Whether a record of a section says of every field of the section what it is in some settings. -/
def Tells (kind : Section) (content : Json) (settings : Settings) : Prop :=
  ∃ record, Record.readAs .document kind.keys content = .ok record ∧
    ∀ (α : Type) (field : Field α), field.group = kind →
      record.defaulted field.key field.decode (field.get .default) = .ok (field.get settings)

/-! ## Reading sections -/

section Sections

variable {content : Json} {policy : Policy} {limits : Limits} {scan : Scan} {logging : Logging}

/-- The record of the pipeline tells the policy. -/
theorem tells_policy (h : Policy.decodeAs .document content = .ok policy) :
    Tells .pipeline content ⟨policy, limits, scan, logging⟩ := by
  unfold Policy.decodeAs at h
  simp only [bind_eq_ok_iff] at h
  obtain ⟨record, hrecord, _, hretries, _, hsystemic, _, hperEntity, _, hupper, _, hmode, _,
    hstrategy, _, hlength, _, hmarkers, _, hneutral, _, hlink, hreturn⟩ := h
  cases hreturn
  refine ⟨record, hrecord, ?_⟩
  intro α field hgroup
  cases field with
  | maxRetries => exact hretries
  | systemicThreshold => exact hsystemic
  | perEntityThreshold => exact hperEntity
  | borderlineUpper => exact hupper
  | ensembleMode => exact hmode
  | strategy => exact hstrategy
  | minSummaryLength => exact hlength
  | errorMarkers => exact hmarkers
  | neutralScore => exact hneutral
  | similarityLinkThreshold => exact hlink
  | _ => cases hgroup

theorem tells_limits (h : Limits.decodeAs .document content = .ok limits) :
    Tells .capabilities content ⟨policy, limits, scan, logging⟩ := by
  unfold Limits.decodeAs at h
  simp only [bind_eq_ok_iff] at h
  obtain ⟨record, hrecord, _, htimeout, _, hcalls, hreturn⟩ := h
  cases hreturn
  refine ⟨record, hrecord, ?_⟩
  intro α field hgroup
  cases field with
  | callTimeoutSecs => exact htimeout
  | maxConcurrentCalls => exact hcalls
  | _ => cases hgroup

theorem tells_scan (h : Scan.decodeAs .document content = .ok scan) :
    Tells .ingest content ⟨policy, limits, scan, logging⟩ := by
  unfold Scan.decodeAs at h
  simp only [bind_eq_ok_iff] at h
  obtain ⟨record, hrecord, _, hfiles, _, hextensions, _, hexcluded, hreturn⟩ := h
  cases hreturn
  refine ⟨record, hrecord, ?_⟩
  intro α field hgroup
  cases field with
  | maxFiles => exact hfiles
  | extensions => exact hextensions
  | excludedDirectories => exact hexcluded
  | _ => cases hgroup

theorem tells_logging (h : Logging.decodeAs .document content = .ok logging) :
    Tells .logging content ⟨policy, limits, scan, logging⟩ := by
  unfold Logging.decodeAs at h
  simp only [bind_eq_ok_iff] at h
  obtain ⟨record, hrecord, _, hlevel, _, hformat, hreturn⟩ := h
  cases hreturn
  refine ⟨record, hrecord, ?_⟩
  intro α field hgroup
  cases field with
  | logLevel => exact hlevel
  | logFormat => exact hformat
  | _ => cases hgroup

end Sections

/-! ## Reading documents -/

section Documents

variable {α : Type} {document : Json} {settings : Settings}

/-- A field stands under a key of its own section. -/
theorem key_mem_keys (field : Field α) : field.key ∈ field.group.keys := by
  cases field <;> decide

/-- A field of a section is what the section says of it, or the default. -/
theorem Tells.get_eq {content : Json} {field : Field α} (h : Tells field.group content settings) :
    field.get settings = (field.fromSection? content).getD (field.get .default) := by
  obtain ⟨record, hrecord, htells⟩ := h
  exact Record.eq_of_defaulted hrecord (key_mem_keys field) (htells α field rfl)

/-- A section that is there tells its fields, and the fields of one that is not there have their
defaults. -/
theorem tells_or_default (h : decodeAs .document document = .ok settings) (kind : Section) :
    (∃ content, fieldAt? Section.names document kind.name = some content ∧
      Tells kind content settings) ∨
    fieldAt? Section.names document kind.name = none ∧ kind.Agrees settings .default := by
  unfold decodeAs at h
  simp only [bind_eq_ok_iff] at h
  obtain ⟨record, hrecord, policy, hpolicy, limits, hlimits, scan, hscan, logging, hlogging,
    hreturn⟩ := h
  cases hreturn
  rw [Record.defaulted_eq_ok_iff] at hpolicy hlimits hscan hlogging
  have hget : record.get? kind.name = fieldAt? Section.names document kind.name := by
    apply Record.get?_of_readAs hrecord
    cases kind <;> decide
  rw [← hget]
  cases kind with
  | pipeline =>
      obtain ⟨content, hcontent, hread⟩ | ⟨hnone, hdefault⟩ := hpolicy
      · exact .inl ⟨content, hcontent, tells_policy hread⟩
      · exact .inr ⟨hnone, hdefault⟩
  | capabilities =>
      obtain ⟨content, hcontent, hread⟩ | ⟨hnone, hdefault⟩ := hlimits
      · exact .inl ⟨content, hcontent, tells_limits hread⟩
      · exact .inr ⟨hnone, hdefault⟩
  | ingest =>
      obtain ⟨content, hcontent, hread⟩ | ⟨hnone, hdefault⟩ := hscan
      · exact .inl ⟨content, hcontent, tells_scan hread⟩
      · exact .inr ⟨hnone, hdefault⟩
  | logging =>
      obtain ⟨content, hcontent, hread⟩ | ⟨hnone, hdefault⟩ := hlogging
      · exact .inl ⟨content, hcontent, tells_logging hread⟩
      · exact .inr ⟨hnone, hdefault⟩

/-- A field of the settings in a document is what the document says of it, or the default. -/
theorem Field.get_of_decodeAs (h : decodeAs .document document = .ok settings) (field : Field α) :
    field.get settings = (field.fromDocument? document).getD (field.get .default) := by
  unfold Field.fromDocument?
  obtain ⟨content, hcontent, htells⟩ | ⟨hnone, hagrees⟩ := tells_or_default h field.group
  · rw [hcontent, Option.bind_some]
    exact htells.get_eq
  · rw [hnone]
    exact field.get_of_agrees hagrees

/-! ## Files -/

/-- Whether a tree is a file with a document of settings, which is this value. -/
def IsDocument (tree : FileTree) (document : Json) : Prop :=
  ∃ text : String, tree = .file text.toUTF8 ∧ Toml.read? text = some document ∧
    ∃ settings, decodeAs .document document = .ok settings

/-- A text tells settings if it is a document and the document tells them. -/
theorem ofDocument_eq_ok_iff {text : String} :
    ofDocument text = .ok settings ↔
      ∃ document, Toml.read? text = some document ∧
        decodeAs .document document = .ok settings := by
  unfold ofDocument
  cases Toml.read? text with
  | none => simp
  | some document =>
      cases hdecode : decodeAs .document document with
      | error e => simp [hdecode]
      | ok other => simp [hdecode]

/-- A file can be read if it is a text, and that of a document. -/
theorem ofFile_eq_ok_iff {path : String} {tree : FileTree} :
    ofFile path (some tree) = .ok settings ↔
      ∃ text : String, tree = .file text.toUTF8 ∧ ofDocument text = .ok settings := by
  cases tree with
  | directory parts => simp [ofFile]
  | file bytes =>
      simp only [ofFile]
      constructor
      · intro h
        split at h
        · rename_i text htext
          rw [Text.fromUTF8?_eq_some_iff] at htext
          exact ⟨text, by rw [htext], h⟩
        · cases h
      · intro h
        obtain ⟨text, htree, hread⟩ := h
        cases htree
        rw [Text.fromUTF8?_eq_some_iff.2 rfl]
        exact hread

end Documents

end Settings
end CodeSurvey
