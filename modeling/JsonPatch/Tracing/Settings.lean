import JsonPatch.Environment
import JsonPatch.Fault
import JsonPatch.Number.Written

/-! # Settings of tracing

Each setting is given by the caller or else read from the environment.  The sampling rate is a
double, whatever it is given as; the other settings are kept as they are. -/

namespace JsonPatch.Tracing

/-- The settings of tracing. -/
structure Settings where
  serviceName : Value
  serviceVersion : Value
  environment : Value
  sampleRate : Double
  enabled : Value

namespace Settings

/-- The settings that a caller gives; null stands for a setting left open. -/
structure Request where
  serviceName : Value := .null
  serviceVersion : Value := .null
  environment : Value := .null
  sampleRate : Value := .null
  enabled : Value := .null

/-- The version that is reported if no other is set. -/
def version : String := "0.1.0"

/-- The value that is given, unless it counts as false, or else a variable. -/
def orVariable (given : Value) (env : Environment) (name default : String) : Value :=
  if given.isTruthy then given else .string (env.get name default)

/-- The double that a text stands for. -/
def rateOfText (text : String) : Except Fault Double :=
  match Double.ofText? text with
  | some d => .ok d
  | none =>
    .error (.raised .value ("could not convert string to float: " ++ Text.quoted text))

/-- The sampling rate that a value stands for. -/
def rateOf : Value → Except Fault Double
  | .number (.double d) => .ok d
  | .number (.int n) =>
    match Double.ofInt n with
    | .infinity _ => .error (.raised .range "int too large to convert to float")
    | d => .ok d
  | .bool b => .ok (Double.ofInt (if b then 1 else 0))
  | .string text => rateOfText text
  | v => .error (.raised .type
    ("float() argument must be a string or a real number, not '" ++ v.typeName ++ "'"))

/-- The sampling rate that is given, or else the one of the environment. -/
def sampleRateFor (given : Value) (env : Environment) : Except Fault Double :=
  match given with
  | .null => rateOfText (env.get "OTEL_SAMPLE_RATE" "1.0")
  | v => rateOf v

/-- Whether tracing is enabled in an environment. -/
def isEnabledIn (env : Environment) : Bool :=
  Text.lowercase (env.get "OTEL_ENABLED" "true").toList == "true".toList

/-- The settings for a request in an environment. -/
def ofRequest (env : Environment) (r : Request) : Except Fault Settings :=
  (sampleRateFor r.sampleRate env).map fun sampleRate =>
    { serviceName := orVariable r.serviceName env "OTEL_SERVICE_NAME" "jsontools"
      serviceVersion := orVariable r.serviceVersion env "OTEL_SERVICE_VERSION" version
      environment := orVariable r.environment env "OTEL_ENVIRONMENT" "development"
      sampleRate
      enabled :=
        match r.enabled with
        | .null => .bool (isEnabledIn env)
        | v => v }

end Settings
end JsonPatch.Tracing
