import CodeSurvey.Analysis
import CodeSurvey.Text.Alphabetic
import CodeSurvey.Text.Blank
import CodeSurvey.Text.LetterCase

/-!
# Reconciling several views of one entity

The longest view is the base of the reconciled text.  Up to three terms of the other views that
the base does not contain are appended as related aspects.  A term is a word in title case, read
without the punctuation around it.

## Main definitions

* `ExpertView.base?`: the longest view and the remaining ones.
* `relatedTerms`: the terms of the other views that are new to the base.
* `integrate`: the reconciled text.
-/

namespace CodeSurvey

namespace ExpertView

/-- The length of a view's text in bytes of its encoding. -/
def size (view : ExpertView) : Nat := view.text.utf8ByteSize

/-- The longest of the views, the earliest of equally long ones, and all the others in order. -/
def base? : List ExpertView → Option (ExpertView × List ExpertView)
  | [] => none
  | view :: rest =>
      match base? rest with
      | none => some (view, [])
      | some (best, others) =>
          if best.size ≤ view.size then some (view, rest) else some (best, view :: others)

end ExpertView

namespace Ensemble

/-- How many related terms are mentioned at most. -/
def maxRelatedTerms : Nat := 3

/-- Whether a word begins with a capital letter and has no other letter but small ones. -/
def isTitleCase (word : String) : Bool :=
  match word.toList with
  | [] => false
  | first :: rest =>
      Text.isUppercase first && rest.all fun c => !Text.isAlphabetic c || Text.isLowercase c

/-- A word without the characters around it that are neither letters nor numerals. -/
def bareWord (word : String) : String := Text.trimWhile (fun c => !Text.isAlphanumeric c) word

/-- The terms found so far, and one more if the word is a term that neither the base nor the list
contains. -/
def addTerm (base : String) (terms : List String) (word : String) : List String :=
  if isTitleCase word && !Text.hasInfix base word && !terms.contains word then terms ++ [word]
  else terms

/-- The terms of the views that the base does not contain, in order of their first occurrence. -/
def relatedTerms (base : String) (views : List ExpertView) : List String :=
  (views.flatMap fun view => (Text.words view.text).map bareWord).foldl (addTerm base) []

/-- The text of a base with its related terms. -/
def withTerms (base : String) (terms : List String) : String :=
  if terms.isEmpty then base
  else base ++ " Related aspects: " ++ ", ".intercalate terms ++ "."

/-- The reconciled text of several views of the same entity. -/
def integrate (views : List ExpertView) : String :=
  match ExpertView.base? views with
  | none => ""
  | some (view, others) =>
      let base := Text.trim view.text
      withTerms base ((relatedTerms base others).take maxRelatedTerms)

end Ensemble

end CodeSurvey
