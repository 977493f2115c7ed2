import JsonPatch.Environment
import JsonPatch.Json.Text

/-! # Settings

Each setting is given by the caller or else read from the environment.  A setting that is given
is kept as it is, of whatever type; where it is used it counts as true or false. -/

namespace JsonPatch

/-- The settings of a patch. -/
structure Settings where
  /-- Whether predicates are operations too. -/
  enablePredicates : Value
  /-- Whether every operation that succeeds is logged. -/
  logOperations : Value
  /-- The name of the log level, in upper case. -/
  logLevel : String
  /-- Whether the whole grammar is checked and not the shape alone. -/
  validateSchema : Value

namespace Settings

/-- The settings that a caller gives; null stands for a setting left open. -/
structure Request where
  enablePredicates : Value := .null
  logOperations : Value := .null
  logLevel : Value := .null
  validateSchema : Value := .null

/-- A setting that is given, or else a flag of the environment. -/
def orFlag (given : Value) (flag : Bool) : Value :=
  match given with
  | .null => .bool flag
  | v => v

/-- The fault of a value that has no upper-case form. -/
def noUpperCase (v : Value) : Fault :=
  .raised .attribute ("'" ++ v.typeName ++ "' object has no attribute 'upper'")

/-- The upper-case form of a text. -/
def upperCase (s : String) : String :=
  String.ofList (Text.uppercase s.toList)

/-- The name of a log level in upper case: the one that is given, unless it counts as false, or
else the default. -/
def levelName (given : Value) (default : String) : Except Fault String :=
  if given.isTruthy then
    match given with
    | .string name => .ok (upperCase name)
    | v => .error (noUpperCase v)
  else .ok (upperCase default)

/-- The settings for a request in an environment. -/
def ofRequest (env : Environment) (r : Request) : Except Fault Settings :=
  (levelName r.logLevel (env.get "JSONTOOLS_LOG_LEVEL" "INFO")).map fun logLevel =>
    { enablePredicates := orFlag r.enablePredicates (env.flag "JSONTOOLS_PREDICATES" "false")
      logOperations := orFlag r.logOperations (env.flag "JSONTOOLS_LOG_OPERATIONS" "false")
      logLevel
      validateSchema :=
        orFlag r.validateSchema (env.flag "JSONTOOLS_VALIDATE_SCHEMA" "true") }

/-- The settings that the environment alone gives. -/
def ofEnvironment (env : Environment) : Settings where
  enablePredicates := .bool (env.flag "JSONTOOLS_PREDICATES" "false")
  logOperations := .bool (env.flag "JSONTOOLS_LOG_OPERATIONS" "false")
  logLevel := upperCase (env.get "JSONTOOLS_LOG_LEVEL" "INFO")
  validateSchema := .bool (env.flag "JSONTOOLS_VALIDATE_SCHEMA" "true")

/-- The settings on one line. -/
def describe (s : Settings) : Except Fault String := do
  return "JsonToolsConfig(enable_predicates=" ++ (← s.enablePredicates.shownPlain) ++
    ", log_operations=" ++ (← s.logOperations.shownPlain) ++
    ", log_level=" ++ Text.quoted s.logLevel ++
    ", validate_schema=" ++ (← s.validateSchema.shownPlain) ++ ")"

end Settings
end JsonPatch
