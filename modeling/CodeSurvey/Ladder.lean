import CodeSurvey.Capability.Plan
import CodeSurvey.Text.Blank

/-!
# The ladder of fallback summaries

An entity that the summarizer did not cover gets its summary from the first tier of a ladder that
has one: its documentation comment, the summarizer's answer about a snippet of it, or a template
that never declines.

## Main definitions

* `documentation`: the documentation comment of a node, trimmed.
* `syntheticSnippet`: the code that stands for a node without a summary.
* `Ladder.resolve`: the summary of a node, and the tier it came from.
-/

namespace CodeSurvey

/-- A text, if there is one and it is not blank. -/
def nonBlank (text : Option String) : Option String :=
  text.filter fun t => !Text.isBlankText t

/-- The documentation comment of a node without the blanks around it, if anything is left. -/
def documentation (node : StructuralNode) : Option String :=
  (node.docstring.map Text.trim).filter fun doc => !doc.isEmpty

/-- The code that stands for a node: its own code, its signature, or a minimal definition. -/
def syntheticSnippet (node : StructuralNode) : String :=
  match nonBlank node.code with
  | some code => code
  | none =>
      match nonBlank node.signature with
      | some signature => signature
      | none =>
          match node.kind with
          | .function => "def " ++ node.label ++ "(" ++ ", ".intercalate node.args ++ "): pass"
          | .classType => "class " ++ node.label ++ ": pass"
          | .file => "# module " ++ node.id.text

/-- The summary of last resort, made of what is known about the structure of a node. -/
def templateSummary (node : StructuralNode) : String :=
  let name := if node.label.isEmpty then node.id.label else node.label
  let count := node.args.length
  "Internal " ++ node.kind.name ++ " component " ++ name ++ " taking " ++ count.repr ++
    " argument" ++ (if count = 1 then "" else "s") ++ "."

/-- A tier of the ladder.  Custom tiers are played by the caller. -/
inductive Tier where
  | docComment
  | summarizer
  | template
  | custom (name : String)
  deriving DecidableEq, Repr

/-- The name of a tier. -/
def Tier.name : Tier → String
  | .docComment => "doc_comment"
  | .summarizer => "summarizer"
  | .template => "template"
  | .custom name => name

/-- Tries a tier at a place of a ladder on a node.  Without a text it declines. -/
def Tier.attempt (place : Nat) (node : StructuralNode) : Tier → Plan (Option String)
  | .docComment => .done (documentation node)
  | .summarizer => do
      match ← Plan.request (.summarizeSnippet node.id (syntheticSnippet node)) with
      | .ok text => return some text
      | .failed _ | .timedOut => return none
      | .panicked => .crash
  | .template => .done (some (templateSummary node))
  | .custom _ => do
      match ← Plan.request (.attemptTier place node) with
      | .ok text => return text
      | .failed _ | .timedOut => return none
      | .panicked => .crash

/-- A summary and the name of the tier it came from. -/
structure LadderOutcome where
  text : String
  tier : String
  deriving DecidableEq, Repr

/-- Tiers in the order in which they are tried. -/
abbrev Ladder := List Tier

namespace Ladder

/-- The documentation comment, then the summarizer, then the template. -/
def standard : Ladder := [.docComment, .summarizer, .template]

/-- Tries the remaining tiers, the first of which is at a place of the ladder. -/
def resolveFrom (node : StructuralNode) : (place : Nat) → Ladder → Plan LadderOutcome
  | _, [] => .done ⟨templateSummary node, Tier.name .template⟩
  | place, tier :: rest => do
      match ← tier.attempt place node with
      | some text =>
          let text := Text.trim text
          if text.isEmpty then resolveFrom node (place + 1) rest else return ⟨text, tier.name⟩
      | none => resolveFrom node (place + 1) rest

/-- The summary of a node: the trimmed text of the first tier that has one which is not blank, and
the template if none has. -/
def resolve (ladder : Ladder) (node : StructuralNode) : Plan LadderOutcome :=
  resolveFrom node 0 ladder

end Ladder

end CodeSurvey
