import JsonPatch.Grammar
import JsonPatch.Json.Reader
import JsonPatch.Json.Utf8
import JsonPatch.Fault

/-! # Sources of patch documents

A patch document is a value, or the JSON text of one: a text, a byte string in UTF-8 or an open
file, whose bytes may be no UTF-8.  `Source.read` gives the value, in which a frozen array has
become an array. -/

namespace JsonPatch

/-- What a patch document is made from. -/
inductive Source where
  /-- A text or a byte string is read as JSON; any other value is the document itself. -/
  | value (v : Value)
  /-- An open file with this content. -/
  | file (content : String)
  /-- An open file whose bytes are no UTF-8. -/
  | brokenFile (cause : Utf8.Fault)

/-- Why a patch could not be made. -/
inductive BuildError where
  /-- The bytes are no UTF-8. -/
  | notUtf8 (cause : Utf8.Fault)
  /-- The text is no JSON. -/
  | notJson (cause : Json.Fault)
  /-- The document violates the grammar, as the reports say. -/
  | invalid (reports : List String)
  /-- A fault that says nothing about the document. -/
  | fault (cause : Fault)

namespace BuildError

/-- The reports on the violations of the grammar, if there are any. -/
def reports : BuildError → List String
  | invalid reports => reports
  | _ => []

/-- The wording of the error. -/
def message : BuildError → String
  | notUtf8 cause => "patch document is not valid JSON: " ++ cause.message
  | notJson cause => "patch document is not valid JSON: " ++ cause.message
  | e@(invalid _) => "invalid patch document: " ++ String.intercalate "; " e.reports
  | fault cause => cause.message

/-- Whether the error is about the patch document. -/
def isInvalidDocument : BuildError → Bool
  | fault _ => false
  | _ => true

/-- The error of a text that could not be read. A number that is too long is no error of the
document. -/
def ofJson : Json.Fault → BuildError
  | .longNumber digits => fault (.longNumber digits)
  | cause => notJson cause

end BuildError

namespace Source

/-- The value that a JSON text stands for. -/
def readText (text : List Char) : Except BuildError Value :=
  (Json.read text).mapError .ofJson

/-- The value that a source gives. -/
def read : Source → Except BuildError Value
  | file content => readText content.toList
  | brokenFile cause => .error (.notUtf8 cause)
  | value (.string text) => readText text.toList
  | value (.bytes content) =>
    match Utf8.decode content with
    | .ok text => readText text
    | .error cause => .error (.notUtf8 cause)
  | value (.tuple items) => .ok (.array items)
  | value v => .ok v

end Source
end JsonPatch
