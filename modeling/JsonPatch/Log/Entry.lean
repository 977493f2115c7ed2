import JsonPatch.Json.Text
import JsonPatch.Log.Level
import JsonPatch.Log.Redaction
import JsonPatch.Operation.Basic

/-! # Log entries

An event is logged as one line of ASCII JSON: the name of the event, then its fields, then the
span it happened in, all of it redacted.  The line is made before anyone asks whether its level is
recorded, so a field that cannot be written is a fault at every level.  A predicate that a fault
made false leaves a plain line under a logger of its own. -/

namespace JsonPatch.Log

/-- A line of the log. -/
structure Entry where
  logger : String
  level : Int
  message : String
deriving DecidableEq, Repr

/-- The logger of events. -/
def eventLogger : String := "jsontools"

/-- The logger of predicates. -/
def predicateLogger : String := "jsontools.predicates"

/-- What identifies a span of a trace. -/
structure SpanContext where
  traceId : Nat
  spanId : Nat
  flags : Int

namespace SpanContext

/-- A number in hexadecimal digits, of at least a width. -/
def hexText (width n : Nat) : String :=
  String.ofList (Text.hex width n)

/-- A number in hexadecimal digits, two at least with its sign. -/
def flagText : Int → String
  | .ofNat n => hexText 2 n
  | .negSucc n => "-" ++ hexText 1 (n + 1)

/-- The bounds on the numbers of traces and of spans. -/
def traceLimit : Nat := 0x100000000000000000000000000000000
def spanLimit : Nat := 0x10000000000000000

/-- Whether both numbers can be those of a trace and a span; zero cannot. -/
def isValid (c : SpanContext) : Bool :=
  0 < c.traceId && c.traceId < traceLimit && 0 < c.spanId && c.spanId < spanLimit

/-- The fields that describe a span; there are none if its numbers are not valid. -/
def fields (c : SpanContext) : Members :=
  if !c.isValid then []
  else
    let trace := hexText 32 c.traceId
    let span := hexText 16 c.spanId
    [("trace_id", .string trace), ("span_id", .string span),
      ("traceparent", .string ("00-" ++ trace ++ "-" ++ span ++ "-" ++ flagText c.flags))]

end SpanContext

/-- Members with others after them, without those whose names are taken. -/
def withDefaults (fields extra : Members) : Members :=
  extra.foldl (fun all m => if Members.has m.1 all then all else all ++ [m]) fields

/-- The redacted content of an event. -/
def payload (event : Value) (fields : Members) (span : Members) : Value :=
  Redaction.scrub (.object (("event", event) :: withDefaults fields span))

/-- The entry of an event in whose payload every value has a text. -/
def line (span : Members) (level : Int) (event : Value) (fields : Members) : Entry where
  logger := eventLogger
  level := level
  message := Json.renderAscii (payload event fields span)

/-- The entry of an event outside any trace, with fields that were given and fields of the
program's own. The given ones may hold a value that cannot be written; the own ones are texts and
numbers of operations, which always have a text. -/
def event (level : Int) (name : String) (given own : Members) : Except Fault Entry :=
  if Json.isWritableMembers (Redaction.scrubMembers given) then
    .ok (line [] level (.string name) (given ++ own))
  else .error .hugeInteger

/-- The entry of a predicate that a fault made false. -/
def ofNote (n : Note) : Entry where
  logger := predicateLogger
  level := debug
  message :=
    "predicate " ++ Text.quoted n.predicate ++ " evaluated to false: " ++ n.fault.message

/-- The names that the fields of an event cannot have. -/
def reservedFields : List String := ["level", "event"]

/-- The threshold of a logger: zero stands for none of its own, and then warnings are recorded. -/
def ownOrDefault (threshold : Int) : Int :=
  if threshold = 0 then warning else threshold

/-- The level that a value stands for, which must be an integer or a truth value. -/
def levelOf : Value → Except Fault Int
  | .number (.int n) => .ok n
  | .bool b => .ok (if b then 1 else 0)
  | _ => .error (.raised .type "level must be an integer")

/-- The entry of an event with any fields and any level. The fields are written first. -/
def entryOf (span : Members) (level event : Value) (fields : Members) : Except Fault Entry := do
  let message ← Json.text Json.asciiLine (payload event fields span)
  let level ← levelOf level
  return { logger := eventLogger, level, message }

/-- Log an event at a threshold: the entry, if the level is recorded. No field may have a
reserved name. -/
def record (threshold : Int) (level event : Value) (fields : Members) (span : Members) :
    Except Fault (List Entry) :=
  match List.find? (fun m => reservedFields.contains m.1) fields with
  | some (name, _) =>
    .error (.raised .type ("log_json() got multiple values for argument '" ++ name ++ "'"))
  | none =>
    (entryOf span level event fields).map fun e =>
      if isRecorded (ownOrDefault threshold) e.level then [e] else []

end JsonPatch.Log
