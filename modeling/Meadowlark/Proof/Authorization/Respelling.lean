import Meadowlark.Proof.Authorization.Corrections

namespace Meadowlark.Authorization
open Meadowlark.Core Systems Json

section Bodies
variable {schema : BodySchema} {fields : List (String × Json)}

/-- A name that no other field has is looked up as the value of its field. -/
theorem lookup_of_mem {name : String} {value : Json} (distinct : (fields.map Prod.fst).Nodup)
    (held : (name, value) ∈ fields) : fields.lookup name = some value := by
  obtain ⟨front, back, rfl⟩ := List.append_of_mem held
  rw [List.map_append, List.nodup_append] at distinct
  refine List.lookup_eq_some_iff.mpr ⟨front, back, rfl, ?_⟩
  intro field listed
  have other := distinct.2.2 field.1 (List.mem_map_of_mem listed) name (by simp)
  simpa using other.symm

theorem stringOf_flat {value : Json} {text : String} (read : stringOf value = some text) :
    FlatValue value := by
  cases value <;> trivial

theorem booleanOf_flat {value : Json} {truth : Bool} (read : booleanOf value = some truth) :
    FlatValue value := by
  cases value <;> trivial

theorem optionalField_flat {A : Type} {read : Json → Option A} {value : Json} {found : Option A}
    (flat : ∀ {value found}, read value = some found → FlatValue value)
    (taken : optionalField read (some value) = some found) : FlatValue value := by
  obtain ⟨found, taken, -⟩ := Option.map_eq_some_iff.mp taken
  exact flat taken

/-- Every role is written as a text. -/
theorem roles_written {elements : List Json} {roles : List AuthorizationClientRole}
    (read : elements.mapM roleOf = some roles) : ∃ texts : List String, elements = texts.map Json.string := by
  induction elements generalizing roles with
  | nil => exact ⟨[], rfl⟩
  | cons element rest ih =>
      rw [List.mapM_cons, Option.bind_eq_bind, Option.bind_eq_some_iff] at read
      obtain ⟨role, here, read⟩ := read
      rw [Option.bind_eq_bind, Option.bind_eq_some_iff] at read
      obtain ⟨others, later, -⟩ := read
      obtain ⟨texts, rfl⟩ := ih later
      have text : element = .string role.toText := by simpa using List.find?_some here
      exact ⟨role.toText :: texts, by rw [text]; rfl⟩

theorem rolesOfJson_flat {value : Json} {roles : List AuthorizationClientRole}
    (read : rolesOfJson value = some roles) : FlatValue value := by
  cases value with
  | array elements =>
      obtain ⟨found, taken, -⟩ := Option.bind_eq_some_iff.mp read
      exact roles_written taken
  | _ => cases read

/-- A valid body holds flat values. -/
theorem validates_flat (listed : schema ∈ bodySchemas) (distinct : (fields.map Prod.fst).Nodup)
    (valid : schema.validates (.object fields) = true) : ∀ field ∈ fields, FlatValue field.2 := by
  intro field held
  obtain ⟨name, value⟩ := field
  obtain ⟨accepted, named⟩ := Bool.and_eq_true_iff.mp valid
  have found := lookup_of_mem distinct held
  have property := of_decide_eq_true (List.all_eq_true.mp named name (List.mem_map_of_mem held))
  simp only [bodySchemas, List.mem_cons, List.not_mem_nil, or_false] at listed
  rcases listed with rfl | rfl | rfl
  · obtain ⟨body, read⟩ := Option.isSome_iff_exists.mp accepted
    simp only [clientBodyFrom, Option.bind_eq_bind, Option.bind_eq_some_iff] at read
    obtain ⟨clientName, ⟨nameValue, nameFound, nameRead⟩, active, activeRead, roles,
      ⟨rolesValue, rolesFound, rolesRead⟩, -⟩ := read
    simp only [clientBodySchema, List.mem_cons, List.not_mem_nil, or_false] at property
    rcases property with rfl | rfl | rfl
    · rw [found, Option.some_inj] at nameFound
      exact nameFound ▸ stringOf_flat nameRead
    · rw [found] at activeRead
      exact optionalField_flat booleanOf_flat activeRead
    · rw [found, Option.some_inj] at rolesFound
      exact rolesFound ▸ rolesOfJson_flat rolesRead
  · obtain ⟨body, read⟩ := Option.isSome_iff_exists.mp accepted
    simp only [requestTokenBodyFrom, Option.bind_eq_bind, Option.bind_eq_some_iff] at read
    obtain ⟨grantType, ⟨grantValue, grantFound, grantRead⟩, clientId, idRead, clientSecret,
      secretRead, -⟩ := read
    simp only [requestTokenBodySchema, List.mem_cons, List.not_mem_nil, or_false] at property
    rcases property with rfl | rfl | rfl
    · rw [found, Option.some_inj] at grantFound
      exact grantFound ▸ stringOf_flat grantRead
    · rw [found] at idRead
      exact optionalField_flat stringOf_flat idRead
    · rw [found] at secretRead
      exact optionalField_flat stringOf_flat secretRead
  · obtain ⟨body, read⟩ := Option.isSome_iff_exists.mp accepted
    simp only [verifyTokenBodyFrom, Option.bind_eq_bind, Option.bind_eq_some_iff] at read
    obtain ⟨token, ⟨tokenValue, tokenFound, tokenRead⟩, hint, hintRead, -⟩ := read
    simp only [verifyTokenBodySchema, List.mem_cons, List.not_mem_nil, or_false] at property
    rcases property with rfl | rfl
    · rw [found, Option.some_inj] at tokenFound
      exact tokenFound ▸ stringOf_flat tokenRead
    · rw [found] at hintRead
      exact optionalField_flat stringOf_flat hintRead

theorem numberlessFields_flat (flat : ∀ field ∈ fields, FlatValue field.2) : NumberlessFields fields := by
  induction fields with
  | nil => trivial
  | cons field rest ih =>
      exact ⟨(flat field List.mem_cons_self).numberless,
        ih fun next listed => flat next (List.mem_cons_of_mem field listed)⟩

theorem validates_named (valid : schema.validates (.object fields) = true) :
    ∀ field ∈ fields, field.1 ∈ schema.properties := by
  intro field held
  have named := (Bool.and_eq_true_iff.mp valid).2
  exact of_decide_eq_true (List.all_eq_true.mp named field.1 (List.mem_map_of_mem held))

end Bodies
section Sequence
variable {schema : BodySchema} {fields : List (String × Json)} {respell : String → String}

/-- The names of a valid body are respelled up to case. -/
theorem validates_respells (listed : schema ∈ bodySchemas) (valid : schema.validates (.object fields) = true)
    (caseless : ∀ field ∈ fields, SameUpToCase (respell field.1) field.1) :
    ∀ field ∈ fields, Respells (respell field.1) field.1 := by
  intro field held
  obtain ⟨filled, written⟩ := (properties_written schema listed).1 field.1 (validates_named valid field held)
  exact ⟨filled, List.forall_iff_forall_mem.mp written, caseless field held⟩

/-- Two names of a schema that are equal up to case are equal. -/
theorem properties_caseless (listed : schema ∈ bodySchemas) {first second : String}
    (one : first ∈ schema.properties) (other : second ∈ schema.properties)
    (same : SameUpToCase first second) : first = second :=
  List.inj_on_of_nodup_map (properties_written schema listed).2 one other same

theorem respelled_caseless (listed : schema ∈ bodySchemas) (distinct : (fields.map Prod.fst).Nodup)
    (valid : schema.validates (.object fields) = true)
    (caseless : ∀ field ∈ fields, SameUpToCase (respell field.1) field.1) :
    Caseless (respelled respell fields) := by
  have names : (respelled respell fields).map (fun field => lowered field.1) =
      (fields.map Prod.fst).map lowered := by
    simp only [respelled, List.map_map]
    exact List.map_congr_left caseless
  rw [Caseless, names]
  apply List.Nodup.map_on _ distinct
  intro first one second other same
  obtain ⟨field, held, rfl⟩ := List.mem_map.mp one
  obtain ⟨next, found, rfl⟩ := List.mem_map.mp other
  exact properties_caseless listed (validates_named valid field held) (validates_named valid next found) same

/-- A respelled body that is valid is the body itself. -/
theorem respelled_valid (listed : schema ∈ bodySchemas) (valid : schema.validates (.object fields) = true)
    (caseless : ∀ field ∈ fields, SameUpToCase (respell field.1) field.1)
    (accepted : schema.validates (.object (respelled respell fields)) = true) :
    ∀ field ∈ fields, respell field.1 = field.1 := by
  intro field held
  have inside := validates_named accepted (respell field.1, field.2)
    (List.mem_map_of_mem (f := fun field => (respell field.1, field.2)) held)
  exact properties_caseless listed inside (validates_named valid field held) (caseless field held)

theorem undisturbed_of_kept (kept : ∀ field ∈ fields, respell field.1 = field.1) (before : List Char) :
    Undisturbed respell before fields := by
  induction fields generalizing before with
  | nil => trivial
  | cons field rest ih =>
      exact ⟨Or.inl (kept field List.mem_cons_self),
        ih (fun next listed => kept next (List.mem_cons_of_mem field listed)) _⟩

variable [ServerLibrary]

/-- The library suggests the property that a name is equal to up to case. -/
def SuggestsCaseless : Prop :=
  ∀ schema ∈ bodySchemas, ∀ current suggested,
    ServerLibrary.didYouMean current schema.properties = some suggested ↔
      suggested ∈ schema.properties ∧ SameUpToCase current suggested

/-- The suggestions for a respelled body are its corrections. -/
theorem suggestionsFor_respelled (suggests : SuggestsCaseless) (listed : schema ∈ bodySchemas)
    (valid : schema.validates (.object fields) = true)
    (caseless : ∀ field ∈ fields, SameUpToCase (respell field.1) field.1) :
    suggestionsFor schema (.object (respelled respell fields)) = corrections respell fields := by
  have named := validates_named valid
  simp only [suggestionsFor, respelled, corrections, List.map_map, List.filterMap_map]
  apply List.filterMap_congr
  intro field held
  have suggested := (suggests schema listed (respell field.1) field.1).mpr
    ⟨named field held, caseless field held⟩
  by_cases kept : respell field.1 = field.1
  · simp [kept, named field held]
  · have outside : respell field.1 ∉ schema.properties := fun inside =>
      kept (properties_caseless listed inside (named field held) (caseless field held))
    simp [kept, outside, suggested]

variable [NodeRuntime]

omit [ServerLibrary] in
theorem applySuggestions_iff {body value : Json} {suggestions : List Suggestion} :
    applySuggestions body suggestions = .ok value ↔
      parse (String.ofList (suggestions.foldl correctText (stringifyChars body))) = some value := by
  have text : (stringify body).toList = stringifyChars body := String.toList_ofList
  unfold applySuggestions
  dsimp only
  rw [text]
  delta correctText
  cases parse (String.ofList (suggestions.foldl (fun text suggestion =>
      replaceFirst suggestion.current.toList suggestion.suggested.toList text) (stringifyChars body))) with
  | some updatedBody => simp
  | none => simp

/-- An invalid body becomes a valid one only through its suggestions. -/
theorem validateWithSuggestions_invalid {body value : Json} (refused : ¬ schema.validates body = true)
    (valid : schema.validates value = true) :
    validateWithSuggestions schema body = .ok (.ok value) ↔
      applySuggestions body (suggestionsFor schema body) = .ok value := by
  have first : validateBody schema body = .invalid (ServerLibrary.betterAjvErrors schema.title body)
      (suggestionsFor schema body) := if_neg refused
  unfold validateWithSuggestions
  rw [first]
  dsimp only
  cases applySuggestions body (suggestionsFor schema body) with
  | error failure => exact iff_of_false (by rintro ⟨⟩) (by rintro ⟨⟩)
  | ok updated =>
      dsimp only [bind, Except.bind]
      by_cases accepted : schema.validates updated = true
      · have second : validateBody schema updated = .valid := if_pos accepted
        rw [second]
        simp [pure, Except.pure]
      · have second : validateBody schema updated = .invalid
            (ServerLibrary.betterAjvErrors schema.title updated) (suggestionsFor schema updated) :=
          if_neg accepted
        rw [second]
        apply iff_of_false
        · simp [pure, Except.pure]
        · intro same
          rw [Except.ok.inj same] at accepted
          exact accepted valid

/-- A respelled body is accepted as the body exactly if every respelled name is the first text of its
kind when it is corrected. -/
theorem respelled_accepted_iff (suggests : SuggestsCaseless) (listed : schema ∈ bodySchemas)
    (distinct : (fields.map Prod.fst).Nodup) (valid : schema.validates (.object fields) = true)
    (caseless : ∀ field ∈ fields, SameUpToCase (respell field.1) field.1) :
    validateWithSuggestions schema (.object (respelled respell fields)) = .ok (.ok (.object fields)) ↔
      Undisturbed respell ['\x7b'] fields := by
  have respells := validates_respells listed valid caseless
  have flat := validates_flat listed distinct valid
  by_cases accepted : schema.validates (.object (respelled respell fields)) = true
  · have kept := respelled_valid listed valid caseless accepted
    have same : respelled respell fields = fields :=
      (List.map_congr_left fun field held => by rw [kept field held]; rfl).trans (List.map_id fields)
    rw [validateWithSuggestions, validateBody, if_pos accepted, same]
    exact iff_of_true rfl (undisturbed_of_kept kept _)
  · rw [validateWithSuggestions_invalid accepted valid, suggestionsFor_respelled suggests listed valid caseless,
      applySuggestions_iff]
    have settled := corrections_iff respells ['\x7b']
    rw [← settled]
    constructor
    · intro parsed
      have flatter : ∀ field ∈ respelled respell fields, FlatValue field.2 := by
        intro field held
        obtain ⟨original, found, rfl⟩ := List.mem_map.mp held
        exact flat original found
      exact parse_recased flatter (respelled_caseless listed distinct valid caseless) parsed
        (corrections_recased respells _)
    · intro reached
      have numberless : (Json.object fields).Numberless := ⟨distinct, numberlessFields_flat flat⟩
      have opened (held : List (String × Json)) :
          stringifyChars (.object held) = ['\x7b'] ++ stringifyFields held := by
        rw [stringifyChars]
        rfl
      rw [opened, reached, ← opened]
      exact parse_stringify numberless

end Sequence
namespace Sample

/-- The first property is suggested that a name is equal to up to case. -/
abbrev caselessLibrary : ServerLibrary where
  shake256 := toHex
  didYouMean current names := names.find? fun name => SameUpToCase current name
  betterAjvErrors _ _ := .null
  querystringParse _ := .null
  base64ToBinary text := text

theorem caselessLibrary_suggests : @SuggestsCaseless caselessLibrary := by
  intro schema listed current suggested
  constructor
  · intro found
    have same := List.find?_some found
    exact ⟨List.mem_of_find?_eq_some found, by simpa using same⟩
  · rintro ⟨property, same⟩
    show schema.properties.find? (fun name => SameUpToCase current name) = some suggested
    cases found : schema.properties.find? fun name => SameUpToCase current name with
    | none => exact absurd (decide_eq_true same) (List.find?_eq_none.mp found suggested property)
    | some first =>
        have other : SameUpToCase current first := by simpa using List.find?_some found
        rw [properties_caseless listed (List.mem_of_find?_eq_some found) property (other.symm.trans same)]

/-- Every name in capitals but for the one of the client. -/
def shouted (name : String) : String :=
  if name = "roles" then "ROLES" else if name = "clientName" then "clientname" else name

theorem shouted_caseless (name : String) : SameUpToCase (shouted name) name := by
  unfold shouted
  split_ifs with roles client
  · rw [roles]
    decide
  · rw [client]
    decide
  · rfl

end Sample

/-- Both names of a client are corrected. -/
theorem shouted_client_accepted :
    @validateWithSuggestions Sample.caselessLibrary Core.Sample.runtime clientBodySchema
      (.object [("clientname", .string "Hometown SIS"), ("ROLES", .array [.string "vendor"])]) =
      .ok (.ok (.object [("clientName", .string "Hometown SIS"), ("roles", .array [.string "vendor"])])) :=
  (@respelled_accepted_iff clientBodySchema
    [("clientName", .string "Hometown SIS"), ("roles", .array [.string "vendor"])] Sample.shouted
    Sample.caselessLibrary Core.Sample.runtime Sample.caselessLibrary_suggests List.mem_cons_self
    (by decide) (by decide) fun _ _ => Sample.shouted_caseless _).mpr (by decide)

/-- A client with the name of a respelled property is refused. -/
theorem client_named_roles_refused :
    @SuggestsCaseless Sample.caselessLibrary ∧
    clientBodySchema.validates
      (.object [("clientName", .string "ROLES"), ("roles", .array [.string "vendor"])]) = true ∧
    SameUpToCase "ROLES" "roles" ∧
    @validateWithSuggestions Sample.caselessLibrary Core.Sample.runtime clientBodySchema
      (.object [("clientName", .string "ROLES"), ("ROLES", .array [.string "vendor"])]) =
      .ok (.error .null) := by
  refine ⟨Sample.caselessLibrary_suggests, by decide, by decide, ?_⟩
  let broken : Json := .object [("clientName", .string "roles"), ("ROLES", .array [.string "vendor"])]
  have numberless : broken.Numberless := ⟨by decide, trivial, ⟨trivial, trivial⟩, trivial⟩
  have text : ([⟨"ROLES", "roles"⟩] : List Suggestion).foldl correctText (stringifyChars
      (.object [("clientName", .string "ROLES"), ("ROLES", .array [.string "vendor"])])) =
      stringifyChars broken := by decide
  have applied : @applySuggestions Core.Sample.runtime
      (.object [("clientName", .string "ROLES"), ("ROLES", .array [.string "vendor"])])
      [⟨"ROLES", "roles"⟩] = .ok broken := by
    apply (@applySuggestions_iff Core.Sample.runtime _ _ _).mpr
    rw [text]
    exact @parse_stringify Core.Sample.runtime _ numberless
  have refused : @validateBody Sample.caselessLibrary clientBodySchema broken =
      .invalid .null (@suggestionsFor Sample.caselessLibrary clientBodySchema broken) :=
    if_neg (by decide)
  show (@applySuggestions Core.Sample.runtime _ [⟨"ROLES", "roles"⟩] >>= _) = _
  rw [applied]
  dsimp only [bind, Except.bind]
  rw [refused]
  rfl

end Meadowlark.Authorization
