import Meadowlark.Construction.Core.Message
import Meadowlark.Systems.SeparatedTexts

namespace Meadowlark.Core
open Systems

section Base64

def isBase64Char (char : Char) : Bool := char.isAlphanum || char = '+' || char = '/'

/-- The Base64 form of this many bytes ends with as many paddings as its last group lacks. -/
def IsBase64 (length : Nat) (text : String) : Prop :=
  ∃ body : List Char, (∀ char ∈ body, isBase64Char char = true) ∧
    body.length = (8 * length + 5) / 6 ∧
    text.toList = body ++ List.replicate ((3 - length % 3) % 3) '='

/-- The replacement of one character in the conversion. -/
def urlChar (char : Char) : Char := if char = '+' then '-' else if char = '/' then '_' else char

theorem urlChar_injective {first second : Char} (firstValid : isBase64Char first = true)
    (secondValid : isBase64Char second = true) (same : urlChar first = urlChar second) :
    first = second := by
  have apart : isBase64Char '-' = false ∧ isBase64Char '_' = false := by decide
  unfold urlChar at same
  split at same <;> split at same <;> grind

theorem urlChar_unpadded {char : Char} (valid : isBase64Char char = true) : urlChar char ≠ '=' := by
  have apart : isBase64Char '=' = false := by decide
  unfold urlChar
  split
  · decide
  · split
    · decide
    · rintro rfl
      exact absurd valid (by rw [apart]; decide)

/-- The conversion keeps the characters before the padding. -/
theorem toBase64Url_body {length : Nat} {text : String} {body : List Char}
    (valid : ∀ char ∈ body, isBase64Char char = true)
    (shape : text.toList = body ++ List.replicate length '=') :
    (toBase64Url text).toList = body.map urlChar := by
  have replaced : text.toList.map urlChar =
      body.map urlChar ++ List.replicate length '=' := by
    rw [shape, List.map_append, List.map_replicate]
    rfl
  have unpadded : (body.map urlChar).reverse.dropWhile (· = '=') = (body.map urlChar).reverse := by
    cases reversed : (body.map urlChar).reverse with
    | nil => rfl
    | cons last rest =>
        have inside : last ∈ body.map urlChar := by
          rw [← List.mem_reverse, reversed]
          exact List.mem_cons_self
        obtain ⟨char, stored, rfl⟩ := List.mem_map.mp inside
        simp [urlChar_unpadded (valid char stored)]
  unfold toBase64Url
  change (String.ofList ((text.toList.map urlChar).reverse.dropWhile (· = '=')).reverse).toList = _
  rw [replaced, List.reverse_append, List.reverse_replicate,
    List.dropWhile_append_of_pos (by simp), unpadded, List.reverse_reverse, String.toList_ofList]

/-- The conversion tells digests of one length apart. -/
theorem toBase64Url_injective {length : Nat} {first second : String} (firstShape : IsBase64 length first)
    (secondShape : IsBase64 length second) (same : toBase64Url first = toBase64Url second) :
    first = second := by
  obtain ⟨body, valid, -, shape⟩ := firstShape
  obtain ⟨other, otherValid, -, otherShape⟩ := secondShape
  have bodies : body.map urlChar = other.map urlChar := by
    rw [← toBase64Url_body valid shape, same, toBase64Url_body otherValid otherShape]
  have equal : body = other := by
    clear shape otherShape
    induction body generalizing other with
    | nil => exact (List.map_eq_nil_iff.mp bodies.symm).symm
    | cons char rest ih =>
        cases other with
        | nil => cases bodies
        | cons otherChar others =>
            rw [List.map_cons, List.map_cons, List.cons.injEq] at bodies
            have head := urlChar_injective (valid char List.mem_cons_self)
              (otherValid otherChar List.mem_cons_self) bodies.1
            have tail := ih (fun inner inside => valid inner (List.mem_cons_of_mem _ inside)) others
              (fun inner inside => otherValid inner (List.mem_cons_of_mem _ inside)) bodies.2
            rw [head, tail]
  rw [← String.toList_inj, shape, otherShape, equal]

theorem toBase64Url_length {length : Nat} {text : String} (shape : IsBase64 length text) :
    (toBase64Url text).toList.length = (8 * length + 5) / 6 := by
  obtain ⟨body, valid, sized, shape⟩ := shape
  rw [toBase64Url_body valid shape, List.length_map, sized]

end Base64

section Texts

/-- The text that stands for a resource. -/
def resourceText (resourceInfo : BaseResourceInfo) : String :=
  resourceInfo.projectName ++ "#" ++ resourceInfo.resourceName

/-- The text that stands for an identity. -/
def identityText (documentIdentity : DocumentIdentity) : String :=
  "#".intercalate (documentIdentity.map fun element => element.1 ++ "=" ++ element.2.toTemplateText)

/-- The values of an identity, rendered as texts. -/
def renderedValues (documentIdentity : DocumentIdentity) : List String :=
  documentIdentity.map fun element => element.2.toTemplateText

/-- The values of later elements, each after the text of its key. -/
def segments (documentIdentity : DocumentIdentity) : List (List Char × List Char) :=
  documentIdentity.map fun element =>
    (("#" ++ element.1 ++ "=").toList, element.2.toTemplateText.toList)

theorem identityText_cons (key : String) (value : Json) (rest : DocumentIdentity) :
    (identityText ((key, value) :: rest)).toList =
      (key ++ "=").toList ++ join value.toTemplateText.toList (segments rest) := by
  unfold identityText
  rw [String.toList_intercalate]
  induction rest generalizing key value with
  | nil => simp [segments, join]
  | cons element rest ih =>
      obtain ⟨nextKey, nextValue⟩ := element
      have later := ih nextKey nextValue
      simp only [List.map_cons, List.intercalate_cons_cons] at later ⊢
      rw [later]
      simp [segments, join]

/-- The names of a resource can be told apart in its text. -/
def NamesLegible (resourceInfo : BaseResourceInfo) : Prop :=
  Legible resourceInfo.projectName.toList [(['#'], resourceInfo.resourceName.toList)]

/-- Every value can be told from the keys beside it. -/
def IdentityLegible : DocumentIdentity → Prop
  | [] => True
  | (_, value) :: rest => Legible value.toTemplateText.toList (segments rest)

def SameNames (first second : BaseResourceInfo) : Prop :=
  first.projectName = second.projectName ∧ first.resourceName = second.resourceName

theorem resourceText_join (resourceInfo : BaseResourceInfo) : (resourceText resourceInfo).toList =
    join resourceInfo.projectName.toList [(['#'], resourceInfo.resourceName.toList)] := by
  simp [resourceText, join]

theorem segments_keys {first second : DocumentIdentity} :
    (segments first).map Prod.fst = (segments second).map Prod.fst ↔
      first.map Prod.fst = second.map Prod.fst := by
  have injective : Function.Injective fun key : String => ("#" ++ key ++ "=").toList := by
    intro key other same
    simpa [String.toList_inj] using same
  have keys : ∀ identity : DocumentIdentity, (segments identity).map Prod.fst =
      (identity.map Prod.fst).map fun key => ("#" ++ key ++ "=").toList := by
    intro identity
    simp [segments]
  rw [keys, keys]
  exact (List.map_injective_iff.mpr injective).eq_iff

theorem segments_values (documentIdentity : DocumentIdentity) :
    (segments documentIdentity).map Prod.snd = (renderedValues documentIdentity).map String.toList := by
  simp [segments, renderedValues]

/-- The same keys with other texts as their values. -/
def reread (documentIdentity : DocumentIdentity) (others : List (List Char × List Char)) :
    DocumentIdentity :=
  documentIdentity.zipWith (fun element segment => (element.1, .string (String.ofList segment.2))) others

theorem reread_keys {documentIdentity : DocumentIdentity} {others : List (List Char × List Char)}
    (aligned : others.map Prod.fst = (segments documentIdentity).map Prod.fst) :
    (reread documentIdentity others).map Prod.fst = documentIdentity.map Prod.fst ∧
      segments (reread documentIdentity others) = others := by
  induction documentIdentity generalizing others with
  | nil =>
      obtain rfl := List.map_eq_nil_iff.mp aligned
      exact ⟨rfl, rfl⟩
  | cons element rest ih =>
      cases others with
      | nil => cases aligned
      | cons segment others =>
          obtain ⟨separator, text⟩ := segment
          simp only [segments, List.map_cons, List.cons.injEq] at aligned
          obtain ⟨rfl, aligned⟩ := aligned
          obtain ⟨keys, same⟩ := ih aligned
          constructor
          · change element.1 :: (reread rest others).map Prod.fst = _
            rw [keys]
            rfl
          · change (_, (String.ofList text).toList) :: segments (reread rest others) = _
            rw [same, String.toList_ofList]

/-- The values that an identity can hold. -/
def isIdentityValue : Json → Bool
  | .string _ => true
  | .number _ => true
  | _ => false

theorem reread_values {documentIdentity : DocumentIdentity}
    {others : List (List Char × List Char)} {element : String × Json}
    (inside : element ∈ reread documentIdentity others) : isIdentityValue element.2 = true := by
  induction documentIdentity generalizing others with
  | nil => cases inside
  | cons first rest ih =>
      cases others with
      | nil => cases inside
      | cons segment others =>
          rcases List.mem_cons.mp inside with rfl | later
          · rfl
          · exact ih later

end Texts

section Digests
variable [NodeRuntime] {names identities : Set String} {resourceInfo other : BaseResourceInfo}
  {documentIdentity otherIdentity : DocumentIdentity}

/-- The digests are written in Base64 and tell the hashed texts apart. -/
structure DigestsApart (names identities : Set String) : Prop where
  base64 (length : Nat) (data : String) : IsBase64 length (NodeRuntime.shake256 length data)
  resources : Set.InjOn (NodeRuntime.shake256 12) names
  identities : Set.InjOn (NodeRuntime.shake256 16) identities

/-- Two ids are equal when the hashed texts are equal. -/
theorem meadowlarkId_eq_iff (apart : DigestsApart names identities)
    (named : resourceText resourceInfo ∈ names) (otherNamed : resourceText other ∈ names)
    (hashed : identityText documentIdentity ∈ identities)
    (otherHashed : identityText otherIdentity ∈ identities) :
    meadowlarkIdForDocumentIdentity other otherIdentity =
        meadowlarkIdForDocumentIdentity resourceInfo documentIdentity ↔
      resourceText other = resourceText resourceInfo ∧
        identityText otherIdentity = identityText documentIdentity := by
  constructor
  · intro same
    have texts : (toHash (resourceText other) 12).toList ++ (toHash (identityText otherIdentity) 16).toList =
        (toHash (resourceText resourceInfo) 12).toList ++
          (toHash (identityText documentIdentity) 16).toList := by
      rw [← String.toList_append, ← String.toList_append]
      exact congrArg (fun id => id.value.toList) same
    obtain ⟨first, second⟩ := List.append_inj texts (by
      unfold toHash
      rw [toBase64Url_length (apart.base64 12 _), toBase64Url_length (apart.base64 12 _)])
    constructor
    · exact apart.resources otherNamed named (toBase64Url_injective (apart.base64 12 _)
        (apart.base64 12 _) (String.toList_inj.mp first))
    · exact apart.identities otherHashed hashed (toBase64Url_injective (apart.base64 16 _)
        (apart.base64 16 _) (String.toList_inj.mp second))
  · rintro ⟨sameResource, sameIdentity⟩
    change MeadowlarkId.mk (toHash (resourceText other) 12 ++ toHash (identityText otherIdentity) 16) =
      ⟨toHash (resourceText resourceInfo) 12 ++ toHash (identityText documentIdentity) 16⟩
    rw [sameResource, sameIdentity]

/-- No other identity shares the id.
The identities of one resource have the same keys in the same order. -/
def Distinguished (names identities : Set String) (resourceInfo : BaseResourceInfo)
    (documentIdentity : DocumentIdentity) : Prop :=
  ∀ other otherIdentity, (∀ element ∈ otherIdentity, isIdentityValue element.2 = true) →
    (SameNames other resourceInfo → otherIdentity.map Prod.fst = documentIdentity.map Prod.fst) →
    resourceText other ∈ names → identityText otherIdentity ∈ identities →
    meadowlarkIdForDocumentIdentity other otherIdentity =
        meadowlarkIdForDocumentIdentity resourceInfo documentIdentity →
      SameNames other resourceInfo ∧ renderedValues otherIdentity = renderedValues documentIdentity

theorem distinguished_of_legible (apart : DigestsApart names identities)
    (named : resourceText resourceInfo ∈ names) (hashed : identityText documentIdentity ∈ identities)
    (namesLegible : NamesLegible resourceInfo) (legible : IdentityLegible documentIdentity) :
    Distinguished names identities resourceInfo documentIdentity := by
  intro other otherIdentity _ sameKeys otherNamed otherHashed same
  obtain ⟨sameResource, sameIdentity⟩ :=
    (meadowlarkId_eq_iff apart named otherNamed hashed otherHashed).mp same
  have sameNames : SameNames other resourceInfo := by
    have joined := congrArg String.toList sameResource
    rw [resourceText_join, resourceText_join] at joined
    have aligned : [(['#'], other.resourceName.toList)].map Prod.fst =
        [(['#'], resourceInfo.resourceName.toList)].map Prod.fst := rfl
    obtain ⟨project, resource⟩ := namesLegible.unique aligned joined
    refine ⟨String.toList_inj.mp project, String.toList_inj.mp ?_⟩
    exact (Prod.mk.inj (List.cons.inj resource).1).2
  refine ⟨sameNames, ?_⟩
  have keys := sameKeys sameNames
  cases documentIdentity with
  | nil =>
      obtain rfl := List.map_eq_nil_iff.mp keys
      rfl
  | cons element rest =>
      obtain ⟨key, value⟩ := element
      cases otherIdentity with
      | nil => cases keys
      | cons otherElement others =>
          obtain ⟨otherKey, otherValue⟩ := otherElement
          rw [List.map_cons, List.map_cons, List.cons.injEq] at keys
          obtain ⟨rfl, keys⟩ := keys
          have joined := congrArg String.toList sameIdentity
          rw [identityText_cons, identityText_cons] at joined
          obtain ⟨valueSame, restSame⟩ := legible.unique (segments_keys.mpr keys)
            (List.append_cancel_left joined)
          have later := congrArg (List.map Prod.snd) restSame
          rw [segments_values, segments_values] at later
          have first := String.toList_inj.mp valueSame
          have rendered := (List.map_injective_iff.mpr
            (fun _ _ equal => String.toList_inj.mp equal)) later
          change otherValue.toTemplateText :: renderedValues others = _
          rw [first, rendered]
          rfl

theorem legible_of_distinguished
    (scalar : ∀ element ∈ documentIdentity, isIdentityValue element.2 = true)
    (named : resourceText resourceInfo ∈ names) (hashed : identityText documentIdentity ∈ identities)
    (distinguished : Distinguished names identities resourceInfo documentIdentity) :
    NamesLegible resourceInfo ∧ IdentityLegible documentIdentity := by
  constructor
  · apply legible_of_unique
    intro project others aligned same
    cases others with
    | nil => cases aligned
    | cons segment others =>
        obtain ⟨separator, resource⟩ := segment
        simp only [List.map_cons, List.map_nil, List.cons.injEq, List.map_eq_nil_iff] at aligned
        obtain ⟨rfl, rfl⟩ := aligned
        have sameText : resourceText ⟨String.ofList project, String.ofList resource, false⟩ =
            resourceText resourceInfo := by
          rw [← String.toList_inj, resourceText_join, resourceText_join, ← same]
          simp
        obtain ⟨⟨projectSame, resourceSame⟩, -⟩ := distinguished
          ⟨String.ofList project, String.ofList resource, false⟩ documentIdentity scalar
          (fun _ => rfl) (sameText ▸ named) hashed (by
            change MeadowlarkId.mk (toHash (resourceText _) 12 ++ _) =
              ⟨toHash (resourceText resourceInfo) 12 ++ _⟩
            rw [sameText])
        rw [← projectSame, ← resourceSame]
        simp
  · cases documentIdentity with
    | nil => exact trivial
    | cons element rest =>
        obtain ⟨key, value⟩ := element
        apply legible_of_unique
        intro text others aligned same
        obtain ⟨keys, segmentsSame⟩ := reread_keys aligned
        have sameText : identityText ((key, .string (String.ofList text)) :: reread rest others) =
            identityText ((key, value) :: rest) := by
          rw [← String.toList_inj, identityText_cons, identityText_cons, ← same, segmentsSame]
          simp [Json.toTemplateText]
        have values : ∀ element ∈ (key, Json.string (String.ofList text)) :: reread rest others,
            isIdentityValue element.2 = true := by
          intro element inside
          rcases List.mem_cons.mp inside with rfl | inside
          · rfl
          · exact reread_values inside
        obtain ⟨-, rendered⟩ := distinguished resourceInfo _ values
          (fun _ => by rw [List.map_cons, List.map_cons, keys]) named (sameText ▸ hashed) (by
            change MeadowlarkId.mk (_ ++ toHash (identityText _) 16) =
              ⟨_ ++ toHash (identityText ((key, value) :: rest)) 16⟩
            rw [sameText])
        obtain ⟨first, later⟩ := List.cons.inj rendered
        constructor
        · have value_text : String.ofList text = value.toTemplateText := by
            simpa [Json.toTemplateText] using first
          rw [← value_text, String.toList_ofList]
        · rw [← segmentsSame]
          have texts := congrArg (List.map String.toList) later
          change (renderedValues (reread rest others)).map String.toList =
            (renderedValues rest).map String.toList at texts
          rw [← segments_values, ← segments_values] at texts
          rw [List.zip_of_prod (segments_keys.mpr keys) texts]
          exact (List.zip_of_prod rfl rfl).symm

/-- An id belongs to one identity exactly when its texts can be read in one way. -/
theorem distinguished_iff (apart : DigestsApart names identities)
    (scalar : ∀ element ∈ documentIdentity, isIdentityValue element.2 = true)
    (named : resourceText resourceInfo ∈ names) (hashed : identityText documentIdentity ∈ identities) :
    Distinguished names identities resourceInfo documentIdentity ↔
      NamesLegible resourceInfo ∧ IdentityLegible documentIdentity :=
  ⟨legible_of_distinguished scalar named hashed, fun legible =>
    distinguished_of_legible apart named hashed legible.1 legible.2⟩

end Digests

section Examples
open Sample

/-- One value takes the separator and the key of the next one into itself. -/
theorem sections_share_id : ∃ first second : DocumentIdentity,
    first.map Prod.fst = second.map Prod.fst ∧ renderedValues first ≠ renderedValues second ∧
      ∀ platform : NodeRuntime,
        @meadowlarkIdForDocumentIdentity platform (resource "Section").toBaseResourceInfo first =
          @meadowlarkIdForDocumentIdentity platform (resource "Section").toBaseResourceInfo second := by
  refine ⟨[("sectionIdentifier", .string "a#sessionName=b"), ("sessionName", .string "c")],
    [("sectionIdentifier", .string "a"), ("sessionName", .string "b#sessionName=c")],
    rfl, by decide +kernel, fun platform => ?_⟩
  have texts : identityText
        [("sectionIdentifier", .string "a#sessionName=b"), ("sessionName", .string "c")] =
      identityText
        [("sectionIdentifier", .string "a"), ("sessionName", .string "b#sessionName=c")] := by
    decide +kernel
  change MeadowlarkId.mk (_ ++ @toHash platform (identityText _) 16) =
    ⟨_ ++ @toHash platform (identityText _) 16⟩
  rw [texts]

/-- Three digests, and the zero digest for every other text. -/
private abbrev digests : NodeRuntime :=
  { runtime with
    shake256 := fun outputLength data =>
      if outputLength = 12 ∧ data = "Ed-Fi#School" then "LZRuhjvR1UiLz9Ta"
      else if outputLength = 12 ∧ data = "Ed-Fi#Student" then "WhT14ozRv+M80122"
      else if outputLength = 16 ∧ data = "schoolId=1" then "9s69cBhLwFkXFgIlV6S9vg=="
      else String.ofList (List.replicate ((8 * outputLength + 5) / 6) 'A' ++
        List.replicate ((3 - outputLength % 3) % 3) '=') }

private theorem digests_base64 (length : Nat) (data : String) :
    IsBase64 length (@NodeRuntime.shake256 digests length data) := by
  change IsBase64 length (if _ then _ else if _ then _ else if _ then _ else _)
  split
  · rename_i same
    rw [same.1]
    exact ⟨"LZRuhjvR1UiLz9Ta".toList, List.all_eq_true.mp (by decide +kernel), by decide +kernel,
      by decide +kernel⟩
  · split
    · rename_i same
      rw [same.1]
      exact ⟨"WhT14ozRv+M80122".toList, List.all_eq_true.mp (by decide +kernel), by decide +kernel,
        by decide +kernel⟩
    · split
      · rename_i same
        rw [same.1]
        exact ⟨"9s69cBhLwFkXFgIlV6S9vg".toList, List.all_eq_true.mp (by decide +kernel),
          by decide +kernel, by decide +kernel⟩
      · refine ⟨List.replicate ((8 * length + 5) / 6) 'A', ?_, List.length_replicate, ?_⟩
        · intro char inside
          rw [List.eq_of_mem_replicate inside]
          decide
        · rw [String.toList_ofList]

theorem school_distinguished :
    @Distinguished digests {"Ed-Fi#School", "Ed-Fi#Student"} {"schoolId=1"}
      (resource "School").toBaseResourceInfo [("schoolId", .number "1")] := by
  have apart : @DigestsApart digests {"Ed-Fi#School", "Ed-Fi#Student"} {"schoolId=1"} := by
    refine @DigestsApart.mk digests _ _ digests_base64 ?_ (Set.injOn_singleton _ _)
    rintro first (rfl | rfl) second (rfl | rfl) same
    · rfl
    · exact absurd same (by decide +kernel)
    · exact absurd same (by decide +kernel)
    · rfl
  refine (@distinguished_iff digests _ _ _ _ apart (by decide) ?_ ?_).mpr ⟨?_, trivial⟩
  · exact .inl (by decide +kernel)
  · exact Set.mem_singleton_iff.mpr (by decide +kernel)
  · exact ⟨separatedBy_of_head (by decide) (by decide +kernel) (by decide +kernel), trivial⟩

end Examples
end Meadowlark.Core
