import Meadowlark.Construction.Core.NumberText

namespace Meadowlark.Core

section Ajv

/-- The options of a configured Ajv that the code chooses. -/
structure AjvOptions where
  coerceTypes : Bool
  removeAdditional : Bool
  deriving DecidableEq

/-- The fields of a validation error that the code reads. -/
structure ErrorObject where
  instancePath : String
  keyword : String
  message : Option String
  additionalProperty : Option String
  deriving DecidableEq

/-- A validator may change the value that it checks. -/
structure Validation where
  isValid : Bool
  errors : Option (List ErrorObject)
  data : Json
  deriving DecidableEq

abbrev ValidateFunction := Json → Validation

/-- The third party functions; a schema compiles to a validator or does not compile at all. -/
class SchemaLibrary where
  compile (options : AjvOptions) (schema : Json) : Except Exception ValidateFunction
  betterAjvErrors (data schema : Json) (errors : Option (List ErrorObject)) (basePath : String) :
    Option Json

end Ajv

section Caches

/-- The JSON schemas of a resource. -/
def ResourceSchema.jsonSchemaForInsert (resourceSchema : ResourceSchema) : Json :=
  (resourceSchema.details.field? "jsonSchemaForInsert").getD .null

def ResourceSchema.jsonSchemaForUpdate (resourceSchema : ResourceSchema) : Json :=
  (resourceSchema.details.field? "jsonSchemaForUpdate").getD .null

def ResourceSchema.jsonSchemaForQuery (resourceSchema : ResourceSchema) : Json :=
  (resourceSchema.details.field? "jsonSchemaForQuery").getD .null

/-- Compiled validator functions for the API resource. -/
structure ResourceSchemaValidators where
  insertValidator : ValidateFunction
  queryValidator : ValidateFunction
  updateValidator : ValidateFunction

/-- The environment variables that are read for every Ajv. -/
structure ValidationEnvironment where
  allowOverposting : Bool
  allowTypeCoercion : Bool

/-- A query parameter validator cannot have additional properties. -/
def initializeAjv (environment : ValidationEnvironment) (isQueryParameterValidator : Bool) :
    AjvOptions where
  removeAdditional := if isQueryParameterValidator then false else environment.allowOverposting
  coerceTypes := environment.allowTypeCoercion

/-- The module's variables; its maps find a schema by the reference to its object. -/
structure ValidatorCaches (Reference : Type) where
  ajv : Option AjvOptions
  validatorCache : Reference → Option ResourceSchemaValidators
  queryValidatorCache : Reference → Option ResourceSchemaValidators

def ValidatorCaches.empty (Reference : Type) : ValidatorCaches Reference :=
  ⟨none, fun _ => none, fun _ => none⟩

variable [SchemaLibrary]

def compileValidators (ajv : AjvOptions) (resourceSchema : ResourceSchema) :
    Except Exception ResourceSchemaValidators := do
  let insertValidator ← SchemaLibrary.compile ajv resourceSchema.jsonSchemaForInsert
  let queryValidator ← SchemaLibrary.compile ajv resourceSchema.jsonSchemaForQuery
  let updateValidator ← SchemaLibrary.compile ajv resourceSchema.jsonSchemaForUpdate
  pure ⟨insertValidator, queryValidator, updateValidator⟩

variable {Reference : Type} [DecidableEq Reference] (environment : ValidationEnvironment)
  (schemaAt : Reference → ResourceSchema)

/-- The validators come from one of two caches, and new ones go to the first cache in any case. -/
def getSchemaValidatorsFor (reference : Reference) (isQueryParameterValidator : Bool)
    (caches : ValidatorCaches Reference) :
    Except Exception ResourceSchemaValidators × ValidatorCaches Reference :=
  let validatorCacheObject :=
    if isQueryParameterValidator then caches.queryValidatorCache else caches.validatorCache
  match validatorCacheObject reference with
  | some cachedValidators => (.ok cachedValidators, caches)
  | none =>
      let ajv := initializeAjv environment isQueryParameterValidator
      match compileValidators ajv (schemaAt reference) with
      | .error error => (.error error, { caches with ajv := some ajv })
      | .ok resourceValidators =>
          (.ok resourceValidators,
            { caches with
              ajv := some ajv
              validatorCache :=
                Function.update caches.validatorCache reference (some resourceValidators) })

end Caches

section Documents
variable [SchemaLibrary]

/-- The verdict with the reported errors, and the body as the validator leaves it. -/
structure DocumentVerdict where
  failure : Option Json
  body : Json
  deriving DecidableEq

def validateWith (resourceValidators : ResourceSchemaValidators) (resourceSchema : ResourceSchema)
    (body : Json) (isUpdate : Bool) : DocumentVerdict :=
  let validator :=
    if isUpdate then resourceValidators.updateValidator else resourceValidators.insertValidator
  let validation := validator body
  if validation.isValid then ⟨none, validation.data⟩
  else
    let validationErrors := SchemaLibrary.betterAjvErrors validation.data
      (if isUpdate then resourceSchema.jsonSchemaForUpdate else resourceSchema.jsonSchemaForInsert)
      validation.errors "\x7brequestBody\x7d"
    ⟨validationErrors.map errorsOf, validation.data⟩
where
  errorsOf (validationErrors : Json) : Json := .object [("error", validationErrors)]

variable {Reference : Type} [DecidableEq Reference] (environment : ValidationEnvironment)
  (schemaAt : Reference → ResourceSchema)

def validateDocument (reference : Reference) (body : Json) (isUpdate : Bool)
    (caches : ValidatorCaches Reference) :
    Except Exception DocumentVerdict × ValidatorCaches Reference :=
  let found := getSchemaValidatorsFor environment schemaAt reference false caches
  (found.1.map fun resourceValidators =>
    validateWith resourceValidators (schemaAt reference) body isUpdate, found.2)

end Documents

section Queries
variable [NodeRuntime] [SchemaLibrary]

/-- The reported errors, and the query parameters as the validator leaves them. -/
structure QueryVerdict where
  errors : List String
  queryParameters : Json
  deriving DecidableEq

/-- A parameter that the schema wants as a number or as a boolean is converted.
Every text that is not empty converts to true. -/
def convertParameter (properties : Json) (parameter : String × Json) : String × Json :=
  match (properties.field? parameter.1).bind (·.field? "type") with
  | some (.string type) =>
      if type = "integer" ∨ type = "number" then
        match toNumber parameter.2 with
        | some number => (parameter.1, .number number)
        | none => parameter
      else if type = "boolean" ∧ (parameter.2 = .string "true" ∨ parameter.2 = .string "false") then
        (parameter.1, .boolean true)
      else parameter
  | _ => parameter

/-- An unknown parameter name is reported in its own words. -/
def queryErrorText (resourceName : String) (error : ErrorObject) : String :=
  if error.instancePath = "" ∧ error.keyword = "additionalProperties" then
    resourceName ++ " does not include property '" ++ error.additionalProperty.getD "undefined" ++ "'"
  else error.instancePath ++ " " ++ error.message.getD "undefined"

def validateQueryWith (resourceValidators : ResourceSchemaValidators)
    (resourceSchema : ResourceSchema) (queryParameters : FrontendQueryParameters) :
    Except Exception QueryVerdict :=
  match queryParameters, resourceSchema.jsonSchemaForQuery.field? "properties" with
  | _ :: _, none => .error (typeError "Cannot read properties of undefined")
  | _, properties =>
      let converted := queryParameters.map (convertParameter (properties.getD .null))
      let validation := resourceValidators.queryValidator (.object converted)
      if validation.isValid then .ok ⟨[], validation.data⟩
      else .ok ⟨(validation.errors.getD []).map (queryErrorText resourceSchema.resourceName),
        validation.data⟩

variable {Reference : Type} [DecidableEq Reference] (environment : ValidationEnvironment)
  (schemaAt : Reference → ResourceSchema)

def validateQueryParameters (reference : Reference) (queryParameters : FrontendQueryParameters)
    (caches : ValidatorCaches Reference) :
    Except Exception QueryVerdict × ValidatorCaches Reference :=
  let found := getSchemaValidatorsFor environment schemaAt reference true caches
  (found.1.bind fun resourceValidators =>
    validateQueryWith resourceValidators (schemaAt reference) queryParameters, found.2)

end Queries

section Calls
variable [NodeRuntime] [SchemaLibrary] {Reference : Type} [DecidableEq Reference]
  (environment : ValidationEnvironment) (schemaAt : Reference → ResourceSchema)

/-- The two kinds of callers that share the caches. -/
inductive ValidationCall (Reference : Type) where
  | document (reference : Reference) (body : Json) (isUpdate : Bool)
  | query (reference : Reference) (queryParameters : FrontendQueryParameters)

inductive ValidationVerdict where
  | document (verdict : DocumentVerdict)
  | query (verdict : QueryVerdict)
  deriving DecidableEq

def validate : ValidationCall Reference → ValidatorCaches Reference →
    Except Exception ValidationVerdict × ValidatorCaches Reference
  | .document reference body isUpdate, caches =>
      let validated := validateDocument environment schemaAt reference body isUpdate caches
      (validated.1.map .document, validated.2)
  | .query reference queryParameters, caches =>
      let validated := validateQueryParameters environment schemaAt reference queryParameters caches
      (validated.1.map .query, validated.2)

/-- The caches after a sequence of calls. -/
def cachesAfter (calls : List (ValidationCall Reference)) : ValidatorCaches Reference :=
  calls.foldl (fun caches call => (validate environment schemaAt call caches).2)
    (ValidatorCaches.empty Reference)

end Calls
end Meadowlark.Core
