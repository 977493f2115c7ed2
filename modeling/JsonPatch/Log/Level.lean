import JsonPatch.Settings

/-! # Log levels

The level of a record is a number; the more urgent, the greater.  Some levels have names, two of
them a second one. -/

namespace JsonPatch.Log

/-- The levels by name. The first name of a level is the one that is shown. -/
def levels : List (String × Int) := [
  ("CRITICAL", 50),
  ("FATAL", 50),
  ("ERROR", 40),
  ("WARNING", 30),
  ("WARN", 30),
  ("INFO", 20),
  ("DEBUG", 10),
  ("NOTSET", 0)]

/-- The level of events that are of interest to developers only. -/
def debug : Int := 10

/-- The level of events that call for attention. -/
def warning : Int := 30

/-- The name of a level. -/
def levelName (level : Int) : String :=
  match levels.find? (·.2 == level) with
  | some (name, _) => name
  | none => "Level " ++ toString level

/-- The least level that is recorded: the one that is given, unless it counts as false, or else
the one of the settings. It must be the name of a level, in any case. -/
def threshold (given : Value) (settings : Settings) : Except Fault Int :=
  match Settings.levelName given settings.logLevel with
  | .error f => .error f
  | .ok name =>
    match Members.find? name levels with
    | some level => .ok level
    | none => .error (.raised .value ("unknown log level: " ++ Text.quoted name))

/-- The name of the logger at the top. -/
def topLogger : String := "root"

/-- The name of the logger that a value stands for. What counts as false stands for the one at
the top. -/
def loggerName (name : Value) : Except Fault String :=
  match name with
  | .string s => .ok (if s = "" then topLogger else s)
  | v =>
    if v.isTruthy then .error (.raised .type "A logger name must be a string") else .ok topLogger

/-- Whether a level is recorded at a threshold. -/
def isRecorded (threshold level : Int) : Bool :=
  0 < level && threshold ≤ level

end JsonPatch.Log
