import Mathlib.Data.List.TakeWhile
import Meadowlark.Construction.Core.Middleware

namespace Meadowlark.Core
open Systems

section Segments

/-- Three segments that are not empty begin the list. -/
def StartsTriple : List (List Char) → Prop
  | projectShortVersion :: projectNamespace :: endpointName :: _ =>
      projectShortVersion ≠ [] ∧ projectNamespace ≠ [] ∧ endpointName ≠ []
  | _ => False

/-- The first place at which three adjacent segments are not empty. -/
structure FirstTriple (segments skipped found : List (List Char)) : Prop where
  split : segments = skipped ++ found
  starts : StartsTriple found
  first : ∀ late, late ≠ [] → late <:+ skipped → ¬ StartsTriple (late ++ found)

variable {segments skipped others found rest : List (List Char)}

theorem FirstTriple.not_later (triple : FirstTriple segments skipped found)
    (other : FirstTriple segments others rest) {late : List (List Char)}
    (later : others = skipped ++ late) : late = [] := by
  by_contra filled
  have same : found = late ++ rest := by
    have splits := triple.split.symm.trans other.split
    rw [later, List.append_assoc] at splits
    exact List.append_cancel_left splits
  apply other.first late filled ⟨skipped, later.symm⟩
  rw [← same]
  exact triple.starts

theorem FirstTriple.unique (triple : FirstTriple segments skipped found)
    (other : FirstTriple segments others rest) : skipped = others ∧ found = rest := by
  have splits := triple.split.symm.trans other.split
  have same : skipped = others := by
    rcases List.append_eq_append_iff.mp splits with ⟨late, later, -⟩ | ⟨late, later, -⟩
    · rw [later, triple.not_later other later, List.append_nil]
    · rw [later, other.not_later triple later, List.append_nil]
  subst same
  exact ⟨rfl, List.append_cancel_left splits⟩

theorem FirstTriple.leading (starts : StartsTriple found) : FirstTriple found [] found where
  split := rfl
  starts := starts
  first _ filled suffix := absurd (List.suffix_nil.mp suffix) filled

/-- A place that is first after a segment is first from that segment on. -/
theorem FirstTriple.skip {segment : List Char} (unfit : ¬ StartsTriple (segment :: segments))
    (triple : FirstTriple segments skipped found) :
    FirstTriple (segment :: segments) (segment :: skipped) found where
  split := by rw [triple.split, List.cons_append]
  starts := triple.starts
  first late filled suffix := by
    rcases List.suffix_cons_iff.mp suffix with whole | inside
    · rw [whole, List.cons_append, ← triple.split]
      exact unfit
    · exact triple.first late filled inside

theorem FirstTriple.unskip {segment : List Char} (unfit : ¬ StartsTriple (segment :: segments))
    (triple : FirstTriple (segment :: segments) skipped found) :
    ∃ others, FirstTriple segments others found := by
  cases skipped with
  | nil =>
      have whole : segment :: segments = found := triple.split
      rw [whole] at unfit
      exact absurd triple.starts unfit
  | cons first others =>
      have split := triple.split
      rw [List.cons_append] at split
      injection split with _ split
      refine ⟨others, split, triple.starts, ?_⟩
      intro late filled suffix
      exact triple.first late filled (suffix.trans (List.suffix_cons first others))

theorem FirstTriple.length_le (triple : FirstTriple segments skipped found) :
    3 ≤ segments.length := by
  have starts := triple.starts
  rw [triple.split, List.length_append]
  match found with
  | [] => exact starts.elim
  | [_] => exact starts.elim
  | [_, _] => exact starts.elim
  | _ :: _ :: _ :: rest =>
      simp only [List.length_cons]
      omega

/-- The text that the last group of the path expression matches. -/
inductive ReadsUuid : List (List Char) → DocumentUuid → Prop where
  | last {documentUuid : DocumentUuid} (filled : documentUuid.value ≠ "") :
      ReadsUuid [documentUuid.value.toList] documentUuid
  | line {documentUuid : DocumentUuid} {terminator : Char} {after next : List Char}
      {rest : List (List Char)} (filled : documentUuid.value ≠ "")
      (ends : isLineTerminator terminator) (line : ∀ char ∈ after, ¬ isLineTerminator char) :
      ReadsUuid ((documentUuid.value.toList ++ terminator :: after) :: next :: rest) documentUuid

theorem matchDocumentUuid_last (last : List Char) :
    matchDocumentUuid [last] = if last = [] then none else some ⟨String.ofList last⟩ := rfl

theorem matchDocumentUuid_line (segment next : List Char) :
    matchDocumentUuid (segment :: next :: rest) =
      if ((segment.reverse.dropWhile (! isLineTerminator ·)).drop 1).reverse = [] then none
      else some ⟨String.ofList
        ((segment.reverse.dropWhile (! isLineTerminator ·)).drop 1).reverse⟩ := rfl

/-- The text before the last line terminator. -/
theorem dropWhile_line {before after : List Char} {terminator : Char}
    (ends : isLineTerminator terminator) (line : ∀ char ∈ after, ¬ isLineTerminator char) :
    (((before ++ terminator :: after).reverse.dropWhile (! isLineTerminator ·)).drop 1).reverse =
      before := by
  have skipped : ∀ char ∈ after.reverse, (! isLineTerminator char) = true := by
    intro char inside
    simpa using line char (List.mem_reverse.mp inside)
  rw [List.reverse_append, List.reverse_cons, List.append_assoc,
    List.dropWhile_append_of_pos skipped]
  simp [ends]

theorem line_of_dropWhile {segment : List Char}
    (filled : ((segment.reverse.dropWhile (! isLineTerminator ·)).drop 1).reverse ≠ []) :
    ∃ before terminator after, segment = before ++ terminator :: after ∧
      isLineTerminator terminator ∧ ∀ char ∈ after, ¬ isLineTerminator char := by
  have whole := @List.takeWhile_append_dropWhile _ (! isLineTerminator ·) segment.reverse
  cases dropped : segment.reverse.dropWhile (! isLineTerminator ·) with
  | nil =>
      rw [dropped] at filled
      exact absurd rfl filled
  | cons terminator before =>
      have ends := List.head?_dropWhile_not (! isLineTerminator ·) segment.reverse
      rw [dropped] at ends whole
      refine ⟨before.reverse, terminator,
        (segment.reverse.takeWhile (! isLineTerminator ·)).reverse, ?_, by simpa using ends, ?_⟩
      · have reversed := congrArg List.reverse whole
        simpa using reversed.symm
      · intro char inside
        simpa using List.mem_takeWhile_imp (List.mem_reverse.mp inside)

theorem matchDocumentUuid_iff {documentUuid : DocumentUuid} :
    matchDocumentUuid rest = some documentUuid ↔ ReadsUuid rest documentUuid := by
  constructor
  · intro matched
    match rest with
    | [] => exact absurd matched nofun
    | [last] =>
        rw [matchDocumentUuid_last] at matched
        split at matched
        · exact absurd matched nofun
        · rename_i filled
          obtain rfl := Option.some.inj matched
          have read := @ReadsUuid.last ⟨String.ofList last⟩ (by simpa using filled)
          simpa using read
    | segment :: next :: rest =>
        rw [matchDocumentUuid_line] at matched
        split at matched
        · exact absurd matched nofun
        · rename_i filled
          obtain rfl := Option.some.inj matched
          obtain ⟨before, terminator, after, rfl, ends, line⟩ := line_of_dropWhile filled
          rw [dropWhile_line ends line] at filled ⊢
          have read := @ReadsUuid.line ⟨String.ofList before⟩ terminator after next rest
            (by simpa using filled) ends line
          simpa using read
  · intro read
    cases read with
    | last filled => simp [matchDocumentUuid_last, filled]
    | line filled ends line =>
        rw [matchDocumentUuid_line, dropWhile_line ends line]
        simp [filled]

/-- A part of a path that is not empty and holds no slash. -/
structure IsSegment (part : String) : Prop where
  filled : part ≠ ""
  unslashed : '/' ∉ part.toList

def collectionPath (projectShortVersion projectNamespace endpointName : String) : String :=
  "/" ++ projectShortVersion ++ "/" ++ projectNamespace ++ "/" ++ endpointName

theorem splitOn_unslashed (text : List Char) : ∀ segment ∈ text.splitOn '/', '/' ∉ segment := by
  induction text with
  | nil => simp
  | cons first rest inductionHypothesis =>
      rw [List.splitOn_cons_eq_if_modifyHead]
      split
      · simpa using inductionHypothesis
      · rename_i other
        cases split : rest.splitOn '/' with
        | nil => exact absurd split (List.splitOn_ne_nil '/' rest)
        | cons segment segments =>
            rw [split] at inductionHypothesis
            have apart : '/' ≠ first := by
              intro same
              exact other (beq_iff_eq.mpr same.symm)
            simpa [apart] using inductionHypothesis

theorem splitOn_collectionPath {projectShortVersion projectNamespace endpointName : String}
    (version : IsSegment projectShortVersion) (space : IsSegment projectNamespace)
    (endpoint : IsSegment endpointName) :
    (collectionPath projectShortVersion projectNamespace endpointName).toList.splitOn '/' =
      [[], projectShortVersion.toList, projectNamespace.toList, endpointName.toList] := by
  have text : (collectionPath projectShortVersion projectNamespace endpointName).toList =
      ['/'].intercalate
        [[], projectShortVersion.toList, projectNamespace.toList, endpointName.toList] := by
    simp [collectionPath, List.intercalate]
  rw [text]
  apply List.splitOn_intercalate
  · simp [version.unslashed, space.unslashed, endpoint.unslashed]
  · simp

theorem splitOn_documentPath {projectShortVersion projectNamespace endpointName last : String}
    (version : IsSegment projectShortVersion) (space : IsSegment projectNamespace)
    (endpoint : IsSegment endpointName) (unslashed : '/' ∉ last.toList) :
    (collectionPath projectShortVersion projectNamespace endpointName ++ "/" ++
        last).toList.splitOn '/' =
      [[], projectShortVersion.toList, projectNamespace.toList, endpointName.toList,
        last.toList] := by
  have text : (collectionPath projectShortVersion projectNamespace endpointName ++ "/" ++
      last).toList =
      ['/'].intercalate
        [[], projectShortVersion.toList, projectNamespace.toList, endpointName.toList,
          last.toList] := by
    simp [collectionPath, List.intercalate]
  rw [text]
  apply List.splitOn_intercalate
  · simp [version.unslashed, space.unslashed, endpoint.unslashed, unslashed]
  · simp

theorem startsTriple_of_segments {projectShortVersion projectNamespace endpointName : String}
    (version : IsSegment projectShortVersion) (space : IsSegment projectNamespace)
    (endpoint : IsSegment endpointName) :
    StartsTriple (projectShortVersion.toList :: projectNamespace.toList :: endpointName.toList ::
      rest) := by
  refine ⟨?_, ?_, ?_⟩
  · simpa using version.filled
  · simpa using space.filled
  · simpa using endpoint.filled

end Segments

section Matching
variable [NodeRuntime] {segments skipped rest : List (List Char)}
  {projectShortVersion projectNamespace endpointName : List Char}

/-- The components that the three segments stand for. -/
def componentsOf (projectShortVersion projectNamespace endpointName : List Char)
    (documentUuid : Option DocumentUuid) : PathComponents where
  projectShortVersion := String.ofList projectShortVersion
  projectNamespace := NodeRuntime.toLowerCase (String.ofList projectNamespace)
  endpointName := decapitalize (String.ofList endpointName)
  documentUuid := documentUuid

/-- The path expression reads the first triple or none at all. -/
theorem matchSegments_cases (segments : List (List Char)) :
    (matchSegments segments = none ∧ ∀ skipped found, ¬ FirstTriple segments skipped found) ∨
    ∃ skipped projectShortVersion projectNamespace endpointName rest,
      FirstTriple segments skipped
        (projectShortVersion :: projectNamespace :: endpointName :: rest) ∧
      matchSegments segments = some (componentsOf projectShortVersion projectNamespace endpointName
        (matchDocumentUuid rest)) := by
  induction segments using matchSegments.induct with
  | case1 projectShortVersion projectNamespace endpointName rest filled =>
      right
      refine ⟨[], projectShortVersion, projectNamespace, endpointName, rest,
        .leading filled, ?_⟩
      rw [matchSegments, if_pos filled]
      rfl
  | case2 projectShortVersion projectNamespace endpointName rest unfit later =>
      rw [matchSegments, if_neg unfit]
      have unfit : ¬ StartsTriple (projectShortVersion :: projectNamespace :: endpointName :: rest) :=
        unfit
      rcases later with ⟨unmatched, none⟩ | ⟨skipped, version, namespaceOf, endpoint, after, triple,
        matched⟩
      · left
        refine ⟨unmatched, ?_⟩
        intro skipped found triple
        obtain ⟨others, later⟩ := triple.unskip unfit
        exact none others found later
      · right
        exact ⟨projectShortVersion :: skipped, version, namespaceOf, endpoint, after,
          triple.skip unfit, matched⟩
  | case3 segments short =>
      left
      have few : segments.length < 3 := by
        match segments with
        | [] => decide
        | [_] => simp
        | [_, _] => simp
        | version :: namespaceOf :: endpoint :: rest =>
            exact (short version namespaceOf endpoint rest rfl).elim
      refine ⟨?_, ?_⟩
      · rw [matchSegments]
        exact short
      · intro skipped found triple
        have enough := triple.length_le
        omega

/-- The three forms of a path and the components they stand for. -/
inductive PathForm : String → PathComponents → Prop where
  | collection {projectShortVersion projectNamespace endpointName : String}
      (version : IsSegment projectShortVersion) (space : IsSegment projectNamespace)
      (endpoint : IsSegment endpointName) :
      PathForm (collectionPath projectShortVersion projectNamespace endpointName)
        { projectShortVersion := projectShortVersion
          projectNamespace := NodeRuntime.toLowerCase projectNamespace
          endpointName := decapitalize endpointName
          documentUuid := none }
  | slashed {projectShortVersion projectNamespace endpointName : String}
      (version : IsSegment projectShortVersion) (space : IsSegment projectNamespace)
      (endpoint : IsSegment endpointName) :
      PathForm (collectionPath projectShortVersion projectNamespace endpointName ++ "/")
        { projectShortVersion := projectShortVersion
          projectNamespace := NodeRuntime.toLowerCase projectNamespace
          endpointName := decapitalize endpointName
          documentUuid := none }
  | document {projectShortVersion projectNamespace endpointName : String}
      {documentUuid : DocumentUuid} (version : IsSegment projectShortVersion)
      (space : IsSegment projectNamespace) (endpoint : IsSegment endpointName)
      (uuid : IsSegment documentUuid.value) (wellFormed : isDocumentUuidWellFormed documentUuid) :
      PathForm (collectionPath projectShortVersion projectNamespace endpointName ++ "/" ++
          documentUuid.value)
        { projectShortVersion := projectShortVersion
          projectNamespace := NodeRuntime.toLowerCase projectNamespace
          endpointName := decapitalize endpointName
          documentUuid := some documentUuid }

/-- The segments of a path that has one of the three forms. -/
theorem pathForm_iff {path : String} {pathComponents : PathComponents} :
    PathForm path pathComponents ↔
      ∃ projectShortVersion projectNamespace endpointName rest,
        path.toList.splitOn '/' =
          [] :: projectShortVersion :: projectNamespace :: endpointName :: rest ∧
        StartsTriple (projectShortVersion :: projectNamespace :: endpointName :: rest) ∧
        rest.length ≤ 1 ∧ (matchDocumentUuid rest).all isDocumentUuidWellFormed ∧
        pathComponents = componentsOf projectShortVersion projectNamespace endpointName
          (matchDocumentUuid rest) := by
  constructor
  · intro form
    cases form with
    | collection version space endpoint =>
        refine ⟨_, _, _, [], splitOn_collectionPath version space endpoint,
          startsTriple_of_segments version space endpoint, by simp, rfl, ?_⟩
        simp [componentsOf, matchDocumentUuid]
    | slashed version space endpoint =>
        have split := @splitOn_documentPath _ _ _ "" version space endpoint (by simp)
        rw [String.append_empty] at split
        refine ⟨_, _, _, [[]], split, startsTriple_of_segments version space endpoint, by simp,
          rfl, ?_⟩
        simp [componentsOf, matchDocumentUuid]
    | @document _ _ _ documentUuid version space endpoint uuid wellFormed =>
        have read : matchDocumentUuid [documentUuid.value.toList] = some documentUuid :=
          matchDocumentUuid_iff.mpr (.last uuid.filled)
        refine ⟨_, _, _, [documentUuid.value.toList],
          splitOn_documentPath version space endpoint uuid.unslashed,
          startsTriple_of_segments version space endpoint, by simp, ?_, ?_⟩
        · simpa [read] using wellFormed
        · simp [componentsOf, read]
  · rintro ⟨version, space, endpoint, rest, split, starts, few, wellFormed, rfl⟩
    have text := @List.intercalate_splitOn _ path.toList _ _ '/'
    have unslashed := splitOn_unslashed path.toList
    rw [split] at text unslashed
    simp only [List.forall_mem_cons] at unslashed
    obtain ⟨-, versionUnslashed, spaceUnslashed, endpointUnslashed, restUnslashed⟩ := unslashed
    have versionIs : IsSegment (String.ofList version) :=
      ⟨by simpa using starts.1, by simpa using versionUnslashed⟩
    have spaceIs : IsSegment (String.ofList space) :=
      ⟨by simpa using starts.2.1, by simpa using spaceUnslashed⟩
    have endpointIs : IsSegment (String.ofList endpoint) :=
      ⟨by simpa using starts.2.2, by simpa using endpointUnslashed⟩
    match rest with
    | [] =>
        have same : path = collectionPath (String.ofList version) (String.ofList space)
            (String.ofList endpoint) := by
          apply String.toList_inj.mp
          rw [← text]
          simp [collectionPath, List.intercalate]
        rw [same]
        exact .collection versionIs spaceIs endpointIs
    | [last] =>
        have same : path = collectionPath (String.ofList version) (String.ofList space)
            (String.ofList endpoint) ++ "/" ++ String.ofList last := by
          apply String.toList_inj.mp
          rw [← text]
          simp [collectionPath, List.intercalate]
        rw [same]
        by_cases filled : last = []
        · subst filled
          have form := PathForm.slashed versionIs spaceIs endpointIs
          simpa [componentsOf, matchDocumentUuid] using form
        · have read : matchDocumentUuid [last] = some ⟨String.ofList last⟩ := by
            rw [matchDocumentUuid_last, if_neg filled]
          have lastIs : IsSegment (String.ofList last) :=
            ⟨by simpa using filled, by simpa using restUnslashed⟩
          rw [read] at wellFormed ⊢
          exact .document versionIs spaceIs endpointIs lastIs wellFormed
    | _ :: _ :: _ =>
        simp only [List.length_cons] at few
        omega

/-- The parser continues with the components of the form of the path and answers 404 to a path
that has none of the forms. -/
def ParsesByGrammar (frontendRequest : FrontendRequest) : Prop :=
  (∀ pathComponents, PathForm frontendRequest.path pathComponents →
    parsePath ⟨frontendRequest, none⟩ = continueWith frontendRequest
      { frontendRequest.middleware with pathComponents := pathComponents }) ∧
  ((∀ pathComponents, ¬ PathForm frontendRequest.path pathComponents) →
    parsePath ⟨frontendRequest, none⟩ = respondWith frontendRequest (.ofStatus 404))

/-- The first triple of a path is the leading one with at most one segment after it, or the text
that is read as a uuid is malformed. -/
def ReadsForm (path : String) : Prop :=
  ∀ before segments skipped projectShortVersion projectNamespace endpointName rest,
    path.toList.splitOn '/' = before :: segments →
    FirstTriple segments skipped (projectShortVersion :: projectNamespace :: endpointName :: rest) →
    (before = [] ∧ skipped = [] ∧ rest.length ≤ 1) ∨
      ∃ documentUuid, ReadsUuid rest documentUuid ∧ ¬ isDocumentUuidWellFormed documentUuid

variable {frontendRequest : FrontendRequest} {before : List Char}

/-- A path of one of the three forms has its first triple at its beginning. -/
theorem leading_of_pathForm {path : String} {pathComponents : PathComponents}
    (form : PathForm path pathComponents) (split : path.toList.splitOn '/' = before :: segments)
    (triple : FirstTriple segments skipped
      (projectShortVersion :: projectNamespace :: endpointName :: rest)) :
    before = [] ∧ skipped = [] ∧ rest.length ≤ 1 ∧
      (matchDocumentUuid rest).all isDocumentUuidWellFormed ∧
      pathComponents = componentsOf projectShortVersion projectNamespace endpointName
        (matchDocumentUuid rest) := by
  obtain ⟨version, space, endpoint, after, formSplit, starts, few, wellFormed, rfl⟩ :=
    pathForm_iff.mp form
  rw [split] at formSplit
  injection formSplit with same later
  rw [later] at triple
  obtain ⟨skippedSame, foundSame⟩ := triple.unique (.leading starts)
  injection foundSame with versionSame foundSame
  injection foundSame with spaceSame foundSame
  injection foundSame with endpointSame restSame
  subst versionSame spaceSame endpointSame restSame
  exact ⟨same, skippedSame, few, wellFormed, rfl⟩

theorem parsePath_unmatched (unmatched : pathComponentsFrom frontendRequest.path = none) :
    parsePath ⟨frontendRequest, none⟩ = respondWith frontendRequest (.ofStatus 404) := by
  simp only [parsePath, unmatched]

theorem parsePath_wellFormed {pathComponents : PathComponents}
    (matched : pathComponentsFrom frontendRequest.path = some pathComponents)
    (wellFormed : pathComponents.documentUuid.all isDocumentUuidWellFormed) :
    parsePath ⟨frontendRequest, none⟩ = continueWith frontendRequest
      { frontendRequest.middleware with pathComponents := pathComponents } := by
  simp only [parsePath, matched, if_pos wellFormed]

theorem parsePath_malformed {pathComponents : PathComponents}
    (matched : pathComponentsFrom frontendRequest.path = some pathComponents)
    (malformed : ¬ pathComponents.documentUuid.all isDocumentUuidWellFormed) :
    parsePath ⟨frontendRequest, none⟩ = respondWith frontendRequest (.ofStatus 404) := by
  simp only [parsePath, matched, if_neg malformed]

theorem malformed_iff :
    ¬ (matchDocumentUuid rest).all isDocumentUuidWellFormed ↔
      ∃ documentUuid, ReadsUuid rest documentUuid ∧ ¬ isDocumentUuidWellFormed documentUuid := by
  simp only [← matchDocumentUuid_iff]
  cases matchDocumentUuid rest <;> simp

theorem readsForm_iff {path : String} (split : path.toList.splitOn '/' = before :: segments)
    (triple : FirstTriple segments skipped
      (projectShortVersion :: projectNamespace :: endpointName :: rest)) :
    ReadsForm path ↔ (before = [] ∧ skipped = [] ∧ rest.length ≤ 1) ∨
      ∃ documentUuid, ReadsUuid rest documentUuid ∧ ¬ isDocumentUuidWellFormed documentUuid := by
  constructor
  · intro reads
    exact reads _ _ _ _ _ _ _ split triple
  · intro reads others otherSegments otherSkipped version space endpoint after otherSplit other
    rw [split] at otherSplit
    injection otherSplit with sameBefore sameSegments
    subst sameBefore sameSegments
    obtain ⟨rfl, foundSame⟩ := triple.unique other
    injection foundSame with _ foundSame
    injection foundSame with _ foundSame
    injection foundSame with _ restSame
    rw [← restSame]
    exact reads

/-- The parser follows its grammar when the first triple of the path is its beginning, with at
most one segment after it, or when the text that is read as a uuid is malformed. -/
theorem parsesByGrammar_iff (frontendRequest : FrontendRequest) :
    ParsesByGrammar frontendRequest ↔ ReadsForm frontendRequest.path := by
  cases split : frontendRequest.path.toList.splitOn '/' with
  | nil => exact absurd split (List.splitOn_ne_nil '/' _)
  | cons before segments =>
      have read : pathComponentsFrom frontendRequest.path = matchSegments segments := by
        rw [pathComponentsFrom, split, List.tail_cons]
      rcases matchSegments_cases segments with ⟨unmatched, none⟩ |
        ⟨skipped, version, space, endpoint, rest, triple, matched⟩
      · apply iff_of_true
        · constructor
          · intro pathComponents form
            obtain ⟨_, _, _, _, formSplit, starts, -⟩ := pathForm_iff.mp form
            rw [split] at formSplit
            injection formSplit with _ later
            rw [later] at none
            exact absurd (.leading starts) (none [] _)
          · intro _
            exact parsePath_unmatched (read.trans unmatched)
        · intro others otherSegments otherSkipped _ _ _ _ otherSplit other
          rw [split] at otherSplit
          injection otherSplit with _ sameSegments
          subst sameSegments
          exact absurd other (none _ _)
      · have matched := read.trans matched
        rw [readsForm_iff split triple, ← malformed_iff]
        by_cases wellFormed : (matchDocumentUuid rest).all isDocumentUuidWellFormed
        · have answer := parsePath_wellFormed matched wellFormed
          constructor
          · rintro ⟨-, refuses⟩
            left
            by_contra astray
            have refused := refuses fun pathComponents form => astray
              ⟨(leading_of_pathForm form split triple).1, (leading_of_pathForm form split triple).2.1,
                (leading_of_pathForm form split triple).2.2.1⟩
            rw [answer] at refused
            exact absurd (congrArg MiddlewareModel.frontendResponse refused) nofun
          · rintro (⟨rfl, rfl, few⟩ | malformed)
            · have form : PathForm frontendRequest.path
                  (componentsOf version space endpoint (matchDocumentUuid rest)) := by
                rw [triple.split] at split
                exact pathForm_iff.mpr ⟨version, space, endpoint, rest, split, triple.starts, few,
                  wellFormed, rfl⟩
              constructor
              · intro pathComponents other
                rw [(leading_of_pathForm other split triple).2.2.2.2]
                exact answer
              · intro formless
                exact absurd form (formless _)
            · exact absurd wellFormed malformed
        · apply iff_of_true
          · constructor
            · intro pathComponents form
              exact absurd (leading_of_pathForm form split triple).2.2.2.1 wellFormed
            · intro _
              exact parsePath_malformed matched wellFormed
          · exact .inr wellFormed

end Matching

section Sample
open Sample

/-- A path with two more segments than a collection. -/
def longRequest : FrontendRequest := { newFrontendRequest with path := "/1/2/3/4/5" }

/-- The parser takes a path of five segments for the path of a collection. -/
theorem extra_segments_accepted :
    (∀ pathComponents, ¬ @PathForm runtime longRequest.path pathComponents) ∧
      @parsePath runtime ⟨longRequest, none⟩ = continueWith longRequest
        { longRequest.middleware with
          pathComponents :=
            { projectShortVersion := "1", projectNamespace := "2", endpointName := "3"
              documentUuid := none } } := by
  have formless : ∀ pathComponents, ¬ @PathForm runtime longRequest.path pathComponents := by
    intro pathComponents form
    obtain ⟨_, _, _, rest, split, -, few, -⟩ := (@pathForm_iff runtime _ _).mp form
    have lengths := congrArg List.length split
    have six : (longRequest.path.toList.splitOn '/').length = 6 := by decide
    rw [six] at lengths
    simp only [List.length_cons] at lengths
    omega
  refine ⟨formless, ?_⟩
  rfl

end Sample
end Meadowlark.Core
