import Meadowlark.Construction.Search.QueryDocuments
import Meadowlark.Proof.Core.NumberText
import Meadowlark.Proof.Core.EntryPoint

namespace Meadowlark.Search
open Meadowlark.Core Systems

section Parameters
variable (limit offset : Option String)

/-- The parameters denote non-negative integers, and an offset comes with a limit. -/
structure Usable : Prop where
  limited : ∀ text ∈ limit, Decimal text
  started : ∀ text ∈ offset, Decimal text
  together : offset ≠ none → limit ≠ none

/-- A text of the parameters is refused, or there is an offset without a limit. -/
def RefusedParameters : Prop :=
  (∃ text ∈ limit, Refused text) ∨ (∃ text ∈ offset, Refused text) ∨ (offset ≠ none ∧ limit = none)

/-- What is sent is the text in which the parameter denotes the integer. -/
def Sends (sent : Option Json) (number : Option Nat) : Prop :=
  match number with
  | none => sent = none
  | some number => ∃ text, sent = some (.string text) ∧ Decimal text ∧
      decimalValue text.toList = number

/-- The integer that a parameter denotes. -/
def denoted (parameter : Option String) : Option Nat :=
  parameter.map fun text => decimalValue text.toList

variable {limit offset}

theorem sends_denoted {parameter : Option String} (decimal : ∀ text ∈ parameter, Decimal text) :
    Sends (parameter.map .string) (denoted parameter) := by
  cases parameter with
  | none => rfl
  | some text => exact ⟨text, rfl, decimal text rfl, rfl⟩

theorem Usable.accepted (usable : Usable limit offset) : ¬ RefusedParameters limit offset := by
  rintro (⟨text, given, refused⟩ | ⟨text, given, refused⟩ | ⟨given, missing⟩)
  · exact (usable.limited text given).accepted refused
  · exact (usable.started text given).accepted refused
  · exact usable.together given missing

end Parameters

section Validation
variable [processing : DocumentProcessing] {limit offset : Option String}

theorem any_isNotPositiveInteger {parameter : Option String} :
    (parameter.map Json.string).any processing.paginating.isNotPositiveInteger ↔
      ∃ text ∈ parameter, Refused text := by
  cases parameter with
  | none => simp
  | some text =>
      change isNotPositiveInteger text ↔ _
      rw [isNotPositiveInteger_iff]
      simp

/-- A query that passes is not changed. -/
theorem queryValidation_passed {model following : MiddlewareModel}
    (done : queryValidation model = .ok following) (unanswered : following.frontendResponse = none) :
    following = model := by
  unfold queryValidation at done
  split at done
  · cases done
    rfl
  · dsimp only at done
    split at done
    · cases done
      rfl
    · split at done
      · cases done
        cases unanswered
      · obtain ⟨error, -, built⟩ := ok_of_bind done
        cases built
        split at unanswered
        · cases unanswered
        · rfl

/-- The validator refuses exactly the refused parameters. -/
theorem validatePaginationParameters_iff :
    @validatePaginationParameters processing.paginating ⟨limit.map .string, offset.map .string⟩ =
        none ↔ ¬ RefusedParameters limit offset := by
  unfold RefusedParameters validatePaginationParameters
  rw [← any_isNotPositiveInteger, ← any_isNotPositiveInteger]
  dsimp only
  by_cases neither : limit.map Json.string = none ∧ offset.map Json.string = none
  · rw [if_pos neither, neither.1, neither.2]
    have given : offset = none := Option.map_eq_none_iff.mp neither.2
    simp [given]
  · rw [if_neg neither]
    by_cases badLimit : (limit.map Json.string).any processing.paginating.isNotPositiveInteger
    · simp [badLimit]
    · by_cases badOffset : (offset.map Json.string).any processing.paginating.isNotPositiveInteger
      · simp [badOffset]
      · by_cases apart : offset ≠ none ∧ limit = none
        · simp [apart]
        · simp [badLimit, badOffset, apart]

variable {frontendRequest : FrontendRequest}
  (given : onlyPaginationParameters frontendRequest.queryParameters =
    ⟨limit.map .string, offset.map .string⟩)
include given

omit processing in
theorem given_none (missing : frontendRequest.queryParameters = []) :
    limit = none ∧ offset = none := by
  rw [missing] at given
  obtain ⟨noLimit, noOffset⟩ := PaginationParameters.mk.inj given
  exact ⟨Option.map_eq_none_iff.mp noLimit.symm, Option.map_eq_none_iff.mp noOffset.symm⟩

/-- Refused parameters are answered. -/
theorem queryValidation_refused (refused : RefusedParameters limit offset) :
    ∃ frontendResponse, frontendResponse.statusCode = 400 ∧
      @queryValidation processing.paginating ⟨frontendRequest, none⟩ =
        .ok (respondWith frontendRequest frontendResponse) := by
  have inhabited : frontendRequest.queryParameters ≠ [] := by
    intro missing
    obtain ⟨rfl, rfl⟩ := given_none given missing
    rcases refused with ⟨text, ⟨⟩, -⟩ | ⟨text, ⟨⟩, -⟩ | ⟨present, -⟩
    exact present rfl
  unfold queryValidation
  dsimp only
  rw [if_neg inhabited, given]
  cases answered : @validatePaginationParameters processing.paginating
    ⟨limit.map .string, offset.map .string⟩ with
  | none => exact absurd refused (validatePaginationParameters_iff.mp answered)
  | some error => exact ⟨_, rfl, rfl⟩

/-- Otherwise the other parameters of the query decide. -/
theorem queryValidation_accepted (accepted : ¬ RefusedParameters limit offset)
    (inhabited : frontendRequest.queryParameters ≠ []) :
    @queryValidation processing.paginating ⟨frontendRequest, none⟩ =
      (processing.validateQueryString
        (removeDisallowedQueryParameters frontendRequest.queryParameters)
        frontendRequest.middleware.resourceSchema).map fun error =>
          match error with
          | some error => respondWith frontendRequest
              ⟨400, some frontendRequest.middleware.headerMetadata, some error⟩
          | none => ⟨frontendRequest, none⟩ := by
  unfold queryValidation
  dsimp only
  rw [if_neg inhabited, given, validatePaginationParameters_iff.mpr accepted]
  dsimp only
  cases processing.validateQueryString
    (removeDisallowedQueryParameters frontendRequest.queryParameters)
    frontendRequest.middleware.resourceSchema with
  | error error => rfl
  | ok error => rfl

end Validation

section Queries
variable [processing : DocumentProcessing] [NodeRuntime] {limit offset : Option String}
  {frontendRequest : FrontendRequest}

/-- A search has the integers that the parameters denote as its size and its start. -/
def SearchesPage (limit offset : Option String) (call : Call) : Prop :=
  ∀ request, call = .search request →
    Sends request.size (denoted limit) ∧ Sends request.from_ (denoted offset)

omit processing in
theorem query_searchesPage (engine : Engine) (usable : Usable limit offset)
    (given : onlyPaginationParameters frontendRequest.queryParameters =
      ⟨limit.map .string, offset.map .string⟩) :
    Program.Confined (SearchesPage limit offset) (fun _ => True)
      (Query.query engine.queryHandler frontendRequest) := by
  have published (event : ListenerEvent) : SearchesPage limit offset (.publish event) := by
    rintro request ⟨⟩
  have searched : SearchesPage limit offset
      (.search (searchRequestFrom (queryRequestFrom frontendRequest))) := by
    rintro request ⟨⟩
    change Sends (onlyPaginationParameters frontendRequest.queryParameters).limit _ ∧
      Sends (onlyPaginationParameters frontendRequest.queryParameters).offset _
    rw [given]
    exact ⟨sends_denoted usable.limited, sends_denoted usable.started⟩
  unfold Query.query
  apply (confined_perform (published _)).bind
  intro _ _
  have queried : Program.Confined (SearchesPage limit offset) (fun _ => True)
      (engine.queryHandler.queryDocuments (queryRequestFrom frontendRequest)) := by
    apply Program.Confined.tryCatch
    · apply (confined_perform searched).bind
      intro answer _
      apply Program.Confined.bind (confined_lift fun _ _ => trivial)
      intro documents _
      exact Program.confined_pure trivial
    · intro error
      exact Program.confined_pure trivial
  apply queried.bind
  intro result _
  apply (confined_perform (published _)).bind
  intro _ _
  exact Program.confined_pure trivial

variable (limit offset frontendRequest) (engine : Engine) in
/-- A query that passes the validation has usable parameters and is searched by them, and other
parameters are answered with 400. -/
structure PagesUsably : Prop where
  passed {following : MiddlewareModel}
    (done : @queryValidation processing.paginating ⟨frontendRequest, none⟩ = .ok following)
    (unanswered : following.frontendResponse = none) :
    Usable limit offset ∧ Program.Confined (SearchesPage limit offset) (fun _ => True)
      (Query.query engine.queryHandler following.frontendRequest)
  refused (unusable : ¬ Usable limit offset) :
    ∃ frontendResponse, frontendResponse.statusCode = 400 ∧
      @queryValidation processing.paginating ⟨frontendRequest, none⟩ =
        .ok (respondWith frontendRequest frontendResponse)

/-- Usable parameters and refused ones are treated as they should be, whatever texts are given.
Others are let through unless the rest of the query is answered. -/
theorem pagesUsably_iff (engine : Engine) (frontendRequest : FrontendRequest)
    (limit offset : Option String)
    (given : onlyPaginationParameters frontendRequest.queryParameters =
      ⟨limit.map .string, offset.map .string⟩) :
    PagesUsably limit offset frontendRequest engine ↔
      Usable limit offset ∨ RefusedParameters limit offset ∨
        ∃ error, processing.validateQueryString
          (removeDisallowedQueryParameters frontendRequest.queryParameters)
          frontendRequest.middleware.resourceSchema = .ok (some error) := by
  by_cases usable : Usable limit offset
  · apply iff_of_true _ (Or.inl usable)
    constructor
    · intro following done unanswered
      refine ⟨usable, query_searchesPage engine usable ?_⟩
      rw [@queryValidation_passed processing.paginating _ _ done unanswered]
      exact given
    · exact fun unusable => absurd usable unusable
  · by_cases refused : RefusedParameters limit offset
    · apply iff_of_true _ (Or.inr (Or.inl refused))
      obtain ⟨frontendResponse, status, answered⟩ := queryValidation_refused given refused
      constructor
      · intro following done unanswered
        rw [answered] at done
        cases done
        cases unanswered
      · exact fun _ => ⟨frontendResponse, status, answered⟩
    · have inhabited : frontendRequest.queryParameters ≠ [] := by
        intro missing
        obtain ⟨rfl, rfl⟩ := given_none given missing
        exact usable ⟨by simp, by simp, by simp⟩
      have validated := queryValidation_accepted given refused inhabited
      constructor
      · intro pages
        obtain ⟨frontendResponse, status, answered⟩ := pages.refused usable
        rw [validated] at answered
        refine Or.inr (Or.inr ?_)
        cases outcome : processing.validateQueryString
          (removeDisallowedQueryParameters frontendRequest.queryParameters)
          frontendRequest.middleware.resourceSchema with
        | error error =>
            rw [outcome] at answered
            cases answered
        | ok error =>
            rw [outcome] at answered
            cases error with
            | none => cases answered
            | some error => exact ⟨error, rfl⟩
      · rintro (usable' | refused' | ⟨error, outcome⟩)
        · exact absurd usable' usable
        · exact absurd refused' refused
        · rw [outcome] at validated
          constructor
          · intro following done unanswered
            rw [validated] at done
            cases done
            cases unanswered
          · exact fun _ => ⟨_, rfl, validated⟩

end Queries

section Examples

private def pageRequest (queryParameters : FrontendQueryParameters) : FrontendRequest :=
  { newFrontendRequest with queryParameters := queryParameters }

private abbrev schoolPages (limit offset : Option String) (queryParameters : FrontendQueryParameters) :
    Prop :=
  @PagesUsably Sample.processing Sample.runtime limit offset (pageRequest queryParameters) .opensearch

private theorem limit_passed {text : String} (other : ∃ char ∈ text.toList, Json.isDigit char = false)
    (passed : ((@queryValidation Sample.processing.paginating
      ⟨pageRequest [("limit", .string text)], none⟩).toOption.bind (·.frontendResponse)) = none) :
    ¬ schoolPages (some text) none [("limit", .string text)] := by
  intro pages
  have unusable : ¬ Usable (some text) none := by
    intro usable
    obtain ⟨char, inside, noDigit⟩ := other
    have digit := (usable.limited text rfl).2 char inside
    rw [noDigit] at digit
    cases digit
  obtain ⟨frontendResponse, -, answered⟩ := @PagesUsably.refused Sample.processing Sample.runtime
    _ _ _ _ pages unusable
  rw [answered] at passed
  cases passed

/-- Fractions, exponents, blanks, negative fractions and Infinity reach the search as limits. -/
theorem fractional_limit_passed :
    ¬ schoolPages (some "1.5") none [("limit", .string "1.5")] ∧
      ¬ schoolPages (some "1e3") none [("limit", .string "1e3")] ∧
      ¬ schoolPages (some " ") none [("limit", .string " ")] ∧
      ¬ schoolPages (some "-0.5") none [("limit", .string "-0.5")] ∧
      ¬ schoolPages (some "-Infinity") none [("limit", .string "-Infinity")] := by
  refine ⟨limit_passed ⟨'.', ?_⟩ ?_, limit_passed ⟨'e', ?_⟩ ?_, limit_passed ⟨' ', ?_⟩ ?_,
    limit_passed ⟨'-', ?_⟩ ?_, limit_passed ⟨'-', ?_⟩ ?_⟩ <;> decide +kernel

theorem pagesUsably_decimal :
    onlyPaginationParameters
        (pageRequest [("limit", .string "25"), ("offset", .string "50")]).queryParameters =
      ⟨some (.string "25"), some (.string "50")⟩ ∧
      schoolPages (some "25") (some "50") [("limit", .string "25"), ("offset", .string "50")] := by
  refine ⟨rfl, (@pagesUsably_iff Sample.processing Sample.runtime .opensearch _ _ _ rfl).mpr
    (Or.inl ⟨?_, ?_, fun _ => Option.some_ne_none _⟩)⟩
  · rintro text ⟨⟩
    exact ⟨by decide, List.all_eq_true.mp (by decide)⟩
  · rintro text ⟨⟩
    exact ⟨by decide, List.all_eq_true.mp (by decide)⟩

end Examples
end Meadowlark.Search
