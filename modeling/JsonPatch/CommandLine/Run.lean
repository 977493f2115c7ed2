import JsonPatch.CommandLine.Arguments
import JsonPatch.CommandLine.Console
import JsonPatch.Session

/-! # Running a command

A command reads its inputs, asks the library and reports.  What goes wrong on the way mostly
gives the exit status 1 and one line on standard error; nothing is printed or written then.  The
log goes to standard error, too, before that line.  Some faults stop the program instead. -/

namespace JsonPatch.CommandLine

/-- Why a command does not succeed. -/
inductive CommandError where
  | file (cause : FileFault)
  | notUtf8 (cause : Utf8.Fault)
  | notJson (cause : Json.Fault)
  | patch (cause : PatchError)
  | fault (cause : Fault)

/-- The wording of an error. -/
def CommandError.message : CommandError → String
  | file cause => cause.message
  | notUtf8 cause => cause.message
  | notJson cause => cause.message
  | patch cause => cause.message
  | fault cause => cause.message

/-- The fault inside an error that is about nothing the user wrote. -/
def CommandError.fault? : CommandError → Option Fault
  | .fault f | .patch (.build (.fault f)) | .patch (.run (.fault f)) => some f
  | _ => none

/-- Whether a fault is reported to the user. The others stop the program. -/
def isReported (f : Fault) : Bool :=
  match f.sort with
  | .pointer | .value | .library => true
  | _ => false

/-- A step of a command. -/
abbrev Step (α : Type) := Except CommandError α

/-- The name that stands for standard input. -/
def inputName : String := "-"

/-- The type of what is left of a value that was taken away. -/
def emptyType : String := Value.typeName (.array [])

/-- The text that a source holds. Standard input is empty once it has been read. -/
def sourceText (c : Console) (inputIsRead : Bool) (source : Argument) : Step (List Char) :=
  match source with
  | none => .error (.fault (.notFileName emptyType))
  | some name =>
    if name = inputName then .ok (if inputIsRead then [] else c.input.toList)
    else
      match c.content (plainName name) with
      | .error f => .error (.file f)
      | .ok bytes =>
        match Utf8.decode bytes with
        | .ok text => .ok (unifyLines text)
        | .error f => .error (.notUtf8 f)

/-- The value that a JSON text stands for. -/
def readJson (text : List Char) : Step Value :=
  (Json.read text).mapError .notJson

/-- The value that a source holds. -/
def readSource (c : Console) (inputIsRead : Bool) (source : Argument) : Step Value :=
  match sourceText c inputIsRead source with
  | .ok text => readJson text
  | .error e => .error e

/-- A value as it is printed. -/
def printed (v : Value) : String :=
  Json.renderIndented v ++ "\n"

/-- What a command comes to: its result and the lines of the log. -/
structure Outcome where
  result : Step Report
  entries : List Log.Entry := []

/-- The patch that a source holds. -/
def readPatch (c : Console) (s : Session) (source : Argument) (predicates : Bool) : Step Patch :=
  match readSource c false source with
  | .error e => .error e
  | .ok ops =>
    let withPredicates := if predicates then .bool true else .null
    (s.build (fun settings => { settings, withPredicates }) (.value ops)).mapError
      fun e => .patch (.build e)

/-- Where the result of a patch goes: to a file if a name is given, and else to standard
output. -/
def delivered (c : Console) (output : Argument) (v : Value) : Step Report :=
  match output with
  | none | some "" => .ok { status := 0, output := printed v }
  | some name =>
    match c.destination (plainName name) with
    | .error f => .error (.file f)
    | .ok file => .ok { status := 0, written := file.map fun f => (f, printed v) }

/-- Apply a patch to a document. -/
def runApply (c : Console) (s : Session) (patch document : Argument) (predicates : Bool)
    (output : Argument) : Outcome :=
  match readPatch c s patch predicates with
  | .error e => { result := .error e }
  | .ok p =>
    match readSource c (patch == some inputName) document with
    | .error e => { result := .error e }
    | .ok doc =>
      let r := (s.run p doc).run
      match r.result with
      | .error e => { result := .error (.patch (.run e)), entries := r.entries }
      | .ok () => { result := delivered c output r.document, entries := r.entries }

/-- Print the value that a pointer leads to. -/
def runPointer (c : Console) (path document : Argument) : Outcome :=
  match path with
  | none => { result := .error (.fault (.pointer (.notText emptyType) none)) }
  | some path =>
    match readSource c false document with
    | .error e => { result := .error e }
    | .ok doc =>
      match (Pointer.ofPath path).valueOrFail doc with
      | .error f => { result := .error (.fault f) }
      | .ok v => { result := .ok { status := 0, output := printed v } }

/-- The descriptor that a text stands for. -/
def readDescriptor (predicate : Argument) : Step Value :=
  match predicate with
  | none => .error (.fault (.notJsonText emptyType))
  | some text => readJson text.toList

/-- Evaluate a predicate. -/
def runCheck (c : Console) (s : Session) (predicate document : Argument) : Outcome :=
  match readDescriptor predicate with
  | .error e => { result := .error e }
  | .ok descriptor =>
    match readSource c false document with
    | .error e => { result := .error e }
    | .ok doc =>
      let verdict := (s.evaluate descriptor doc).verdict
      let entries := verdict.notes.map Log.ofNote
      match verdict.answer with
      | .error f => { result := .error (.fault f), entries }
      | .ok true => { result := .ok { status := 0, output := "true\n" }, entries }
      | .ok false => { result := .ok { status := 1, output := "false\n" }, entries }

/-- What a command comes to, whatever its log level. -/
def runCommand (c : Console) (s : Session) : Command → Outcome
  | .apply patch document predicates output => runApply c s patch document predicates output
  | .pointer path document => runPointer c path document
  | .check predicate document => runCheck c s predicate document

/-- The lines of the log that are recorded at a threshold. -/
def logText (threshold : Int) (entries : List Log.Entry) : String :=
  String.join ((entries.filter fun e => Log.isRecorded threshold e.level).map (·.message ++ "\n"))

/-- How a command ends. -/
inductive Ending where
  /-- It comes to its end, with a report. -/
  | report (r : Report)
  /-- A fault stops the program, after some lines of the log. -/
  | stopped (f : Fault) (log : String)

/-- How a command ends that has met with an error, with a log before it. -/
def failed (log : String) (e : CommandError) : Ending :=
  let report : Report := { status := 1, errors := log ++ "jsontools: " ++ e.message ++ "\n" }
  match e.fault? with
  | some f => if isReported f then .report report else .stopped f log
  | none => .report report

/-- Run a command. -/
def run (c : Console) (i : Invocation) : Ending :=
  let s : Session := { environment := c.environment }
  let given := match i.logLevel with
    | some name => .string name
    | none => .null
  match Log.threshold given s.currentSettings.1 with
  | .error f => failed "" (.fault f)
  | .ok threshold =>
    let outcome := runCommand c s i.command
    let log := logText threshold outcome.entries
    match outcome.result with
    | .ok report => .report { report with errors := log }
    | .error e => failed log e

end JsonPatch.CommandLine
