import JsonPatch.CommandLine.Run

/-! # The program

Applies patches, follows pointers and evaluates predicates from the command line.  The files that
the command names are read first; the library does the rest. -/

namespace JsonPatch.CommandLine

/-- The variables that the program reads. -/
def variableNames : List String := [
  "JSONTOOLS_PREDICATES", "JSONTOOLS_LOG_OPERATIONS", "JSONTOOLS_LOG_LEVEL",
  "JSONTOOLS_VALIDATE_SCHEMA", "OTEL_SERVICE_NAME", "OTEL_SERVICE_VERSION", "OTEL_ENVIRONMENT",
  "OTEL_SAMPLE_RATE", "OTEL_ENABLED"]

/-- The environment of the program. -/
def readEnvironment : IO Environment :=
  variableNames.filterMapM fun name => do
    return (← IO.getEnv name).map fun text => (name, text)

/-- The sources that a command reads. -/
def sources : Command → List String
  | .apply patch document _ _ => patch.toList ++ document.toList
  | .pointer _ document => document.toList
  | .check _ document => document.toList

/-- The content of a file, or what keeps it from being read. -/
def readFile (name : String) : IO (Except FileFault (List UInt8)) := do
  try
    return .ok (← IO.FS.readBinFile name).toList
  catch e =>
    return .error (if e matches .inappropriateType .. then .directory name else .missing name)

/-- All that is on standard input. -/
partial def readInput (input : IO.FS.Stream) (before : ByteArray) : IO ByteArray := do
  let more ← input.read 65536
  if more.isEmpty then return before else readInput input (before ++ more)

/-- The console of a command, with its files read. -/
def readConsole (command : Command) : IO Console := do
  let names := (sources command).filter (· != inputName)
  let files ← names.mapM fun name => do
    return (plainName name, ← readFile (plainName name))
  let bytes ← if (sources command).contains inputName then
      readInput (← IO.getStdin) ByteArray.empty
    else pure ByteArray.empty
  return {
    environment := ← readEnvironment
    input := (String.fromUTF8? bytes).getD ""
    content := fun name =>
      match files.find? (·.1 == name) with
      | some (_, content) => content
      | none => .error (.missing name)
    destination := fun name => .ok (some name) }

/-- Do what a report says, and give the exit status. -/
def carryOut (report : Report) : IO UInt32 := do
  IO.eprint report.errors
  match report.written with
  | none =>
    IO.print report.output
    return report.status.toUInt32
  | some (name, text) =>
    try
      IO.FS.writeFile name text
      return report.status.toUInt32
    catch e =>
      let fault := if e matches .inappropriateType .. then FileFault.directory name
        else FileFault.missing name
      IO.eprintln ("jsontools: " ++ fault.message)
      return 1

end JsonPatch.CommandLine

open JsonPatch.CommandLine in
/-- Run the command that the arguments ask for. -/
def main (args : List String) : IO UInt32 := do
  match read args with
  | .error .help =>
    IO.println "usage: jsontools [-h] [--log-level LOG_LEVEL] apply|pointer|check ..."
    return Usage.help.status.toUInt32
  | .error .wrong =>
    IO.eprintln "usage: jsontools [-h] [--log-level LOG_LEVEL] apply|pointer|check ..."
    return Usage.wrong.status.toUInt32
  | .ok invocation =>
    match run (← readConsole invocation.command) invocation with
    | .report report => carryOut report
    | .stopped fault log =>
      IO.eprint log
      IO.eprintln fault.message
      return 1
