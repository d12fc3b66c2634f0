/-
# BoardCompiler.Error — why an entity is refused

A `FieldError` names a configuration field, shows its value and states the
`Constraint` it breaks. An `ErrorCause` is any reason to refuse an entity, and an
`EntityError` adds which entity and of which type it is about. Each has one
`message`.
-/

namespace BoardCompiler

set_option autoImplicit false

/-- What a configuration field must satisfy. -/
inductive Constraint where
  | integer
  | boolean
  | string
  | atLeast (least : Int)
  | greaterThan (bound : Int)
  | inRange (least greatest : Int)
  | oneOf (set : List Int)
  | choice (choices : List String)
  deriving DecidableEq, Repr

namespace Constraint

def message : Constraint → String
  | .integer => "must be an integer"
  | .boolean => "must be a boolean (true or false)"
  | .string => "must be a string"
  | .atLeast least => "must be >= " ++ toString least
  | .greaterThan bound => "must be > " ++ toString bound
  | .inRange least greatest => "must be between " ++ toString least ++ " and " ++ toString greatest
  | .oneOf set => "must be one of [" ++ ", ".intercalate (set.map fun n => toString n) ++ "]"
  | .choice choices => "must be one of [" ++ ", ".intercalate choices ++ "]"

end Constraint

/-- A configuration field that breaks a constraint. -/
structure FieldError where
  field : String
  /-- The offending value as `Yaml.Value.describe` shows it. -/
  value : String
  constraint : Constraint
  deriving DecidableEq, Repr

def FieldError.message (e : FieldError) : String :=
  "field '" ++ e.field ++ "' = " ++ e.value ++ " " ++ e.constraint.message

/-- A reason to refuse an entity. -/
inductive ErrorCause where
  | missingReference
  | wrongFamily (reference family : String)
  | undefinedReference (reference : String)
  | field (error : FieldError)
  | malformed (detail : String)
  | unknownType
  | duplicate
  deriving DecidableEq, Repr

def ErrorCause.message : ErrorCause → String
  | .missingReference => "at least one peripheral reference is required"
  | .wrongFamily reference family =>
    "peripheral reference '" ++ reference ++ "' is not a " ++ family ++
      " peripheral (name must start with '" ++ family ++ "')"
  | .undefinedReference reference => "peripheral reference '" ++ reference ++ "' is not defined"
  | .field error => error.message
  | .malformed detail => "malformed configuration: " ++ detail
  | .unknownType => "no parser registered for this type"
  | .duplicate => "peripheral name is already defined"

/-- A refusal with the entity's name and type tag. -/
structure EntityError where
  entity : String
  kind : String
  cause : ErrorCause
  deriving DecidableEq, Repr

def EntityError.message (e : EntityError) : String :=
  e.kind ++ " '" ++ e.entity ++ "': " ++ e.cause.message

end BoardCompiler
