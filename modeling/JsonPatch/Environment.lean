import JsonPatch.Text.Blank
import JsonPatch.Text.Case
import JsonPatch.Value.Members

/-! # Environment variables

An environment is a list of names and texts. -/

namespace JsonPatch

/-- The variables of an environment. -/
abbrev Environment := List (String × String)

namespace Environment

/-- The text of a variable, or another one if it is not set. -/
def get (env : Environment) (name default : String) : String :=
  (Members.find? name env).getD default

/-- The texts that switch a flag on. -/
def switchedOn : List String := ["1", "true", "yes", "on"]

/-- Whether a text switches a flag on; case and white space around it do not matter. -/
def isOn (text : String) : Bool :=
  switchedOn.contains (String.ofList (Text.lowercase (Text.strip text.toList)))

/-- A flag of the environment. -/
def flag (env : Environment) (name default : String) : Bool :=
  isOn (env.get name default)

end Environment
end JsonPatch
