import JsonPatch.Tracing.Attribute
import JsonPatch.Tracing.Settings

/-! # Tracer providers

A provider belongs to a service and samples spans at a rate between zero and one.  One provider
is in use at a time; another one takes its place only for a service of another name. -/

namespace JsonPatch.Tracing

/-- A provider of tracers. -/
structure Provider where
  serviceName : Value
  serviceVersion : Value
  environment : Value
  rate : Double

namespace Provider

/-- Zero and one. -/
def zero : Double := .ofInt 0
def one : Double := .ofInt 1

/-- The rate brought between zero and one; a rate that is no number counts as one. -/
def clamp (rate : Double) : Double :=
  let atMost := if (Number.double rate).lt (.double one) then rate else one
  if (Number.double zero).lt (.double atMost) then atMost else zero

/-- The name of a service without a name. -/
def unnamedService : String := "unknown_service"

/-- The provider for settings. -/
def ofSettings (s : Settings) : Provider where
  serviceName :=
    let name := Attribute.named s.serviceName
    if name.isTruthy then name else .string unnamedService
  serviceVersion := Attribute.named s.serviceVersion
  environment := Attribute.named s.environment
  rate := clamp s.sampleRate

/-- Whether the environment keeps providers from recording spans. -/
def isSilentIn (env : Environment) : Bool :=
  Text.strip (Text.lowercase (env.get "OTEL_SDK_DISABLED" "").toList) == "true".toList

/-- Whether a provider is the one of a service. -/
def serves (p : Provider) (serviceName : Value) : Bool :=
  Attribute.isSame p.serviceName serviceName

/-- The provider in use after one has been set up. -/
def install (current : Option Provider) (s : Settings) : Provider :=
  match current with
  | some p => if p.serves s.serviceName then p else ofSettings s
  | none => ofSettings s

/-- The attributes of the service. -/
def resource (p : Provider) : Members := [
  ("deployment.environment", p.environment),
  ("service.name", p.serviceName),
  ("service.version", p.serviceVersion)]

end Provider
end JsonPatch.Tracing
