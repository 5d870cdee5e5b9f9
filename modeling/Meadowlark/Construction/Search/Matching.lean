import Meadowlark.Construction.Search.UpdateDocuments

namespace Meadowlark.Search
open Meadowlark.Core

/-- How an engine reads texts: their tokens, and whether a phrase stands in a field of a body. -/
structure Analysis where
  tokens : String → List String
  matchesPhrase : Json → String → Json → Bool

/-- Some token of the first text is a token of the second one. -/
def Analysis.Shares (analysis : Analysis) (first second : String) : Prop :=
  ∃ token ∈ analysis.tokens first, token ∈ analysis.tokens second

instance (analysis : Analysis) (first second : String) : Decidable (analysis.Shares first second) :=
  inferInstanceAs (Decidable (∃ token ∈ analysis.tokens first, _))

/-- A match clause holds when the field shares a token with the value that is searched for. -/
def Analysis.holds (analysis : Analysis) (body : Json) : SearchClause → Bool
  | .matchPhrase field value => analysis.matchesPhrase body field value
  | .matchCreatedBy clientId =>
      match body.field? "createdBy" with
      | some (.string createdBy) => decide (analysis.Shares createdBy clientId)
      | _ => false

/-- The answers of an engine with these contents.
For every hit all clauses hold, and every body for which they hold is on some page. -/
structure Answers (analysis : Analysis) (contents : EngineContents)
    (search : SearchRequest → SearchAnswer) : Prop where
  hit (request : SearchRequest) (source : Json) : source ∈ (search request).sources →
    ∃ id, contents ⟨request.index, id⟩ = some source ∧
      ∀ clause ∈ request.must, analysis.holds source clause = true
  paged (request : SearchRequest) (id : DocumentUuid) (body : Json) :
    contents ⟨request.index, id⟩ = some body →
    (∀ clause ∈ request.must, analysis.holds body clause = true) →
    ∃ size start, body ∈ (search { request with size := size, from_ := start }).sources

section Standard

/-- The standard analysis of a text: its lower case words between hyphens and other punctuation. -/
def standardTokens (text : String) : List String :=
  (((text.toList.map Char.toLower).splitOnP fun char => !char.isAlphanum).filter (· ≠ [])).map
    String.ofList

/-- The tokens of the phrase follow each other in the text of the field. -/
def standardAnalysis : Analysis where
  tokens := standardTokens
  matchesPhrase body field value :=
    match body.field? field, value with
    | some (.string text), .string phrase =>
        (standardTokens text).tails.any (standardTokens phrase).isPrefixOf
    | _, _ => false

end Standard
end Meadowlark.Search
