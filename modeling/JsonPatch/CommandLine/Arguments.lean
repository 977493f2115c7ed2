import JsonPatch.Text.Digit

/-! # Command-line arguments

The arguments name one of three commands.  Options of the program stand before the name of the
command, those of the command anywhere after it.  A long option may be cut short as long as it is
not taken for another one, and its value may follow an equals sign.  After two dashes nothing is
an option any more.

Reading has two steps: `tokens` tells options from other arguments, and the commands take their
values from the tokens. -/

namespace JsonPatch.CommandLine

/-- The options. -/
inductive Switch where
  | help
  | logLevel
  | predicates
  | output
deriving DecidableEq, Repr

namespace Switch

/-- The names of an option. -/
def names : Switch → List String
  | help => ["-h", "--help"]
  | logLevel => ["--log-level"]
  | predicates => ["--predicates"]
  | output => ["--output"]

/-- Whether the option has a value. -/
def takesValue : Switch → Bool
  | logLevel | output => true
  | help | predicates => false

end Switch

/-- Why no command is run: help was asked for, or the arguments make no command. -/
inductive Usage where
  | help
  | wrong
deriving DecidableEq, Repr

/-- The exit status. -/
def Usage.status : Usage → Nat
  | help => 0
  | wrong => 2

/-- The text that an argument has after the name of an option. -/
inductive Attached where
  | nothing
  /-- After an equals sign that follows a long name. -/
  | value (text : String)
  /-- After a name of one letter, whose equals sign is no part of it. -/
  | tail (text : String)
deriving DecidableEq, Repr

/-- The value that the text gives to an option. -/
def Attached.value? : Attached → Option String
  | nothing => none
  | value text | tail text => some text

/-- What an argument is taken for. -/
inductive Token where
  /-- An option, with the text that is attached to it. -/
  | switch (s : Switch) (attached : Attached)
  /-- An option that does not exist. -/
  | unknown
  /-- Any other argument. -/
  | plain (text : String)
  /-- The two dashes that end the options. -/
  | separator
deriving DecidableEq, Repr

/-- The names of options with the options. -/
def named (switches : List Switch) : List (String × Switch) :=
  switches.flatMap fun s => s.names.map fun name => (name, s)

/-- Whether the name of an option has one letter. -/
def isShort : List Char → Bool
  | ['-', c] => c != '-'
  | _ => false

/-- The text before the first equals sign, and the one after it if there is one. -/
def splitEquals (s : List Char) : List Char × Option (List Char) :=
  match s.span (· != '=') with
  | (before, _ :: after) => (before, some after)
  | (before, []) => (before, none)

/-- What is attached to an option by an equals sign. -/
def attachedValue : Option (List Char) → Attached
  | some text => .value (String.ofList text)
  | none => .nothing

/-- Whether a text is a negative number: digits, or a point with digits after it. -/
def isNegativeNumber : List Char → Bool
  | '-' :: s =>
    let s := if s.getLast? = some '\n' then s.dropLast else s
    let (whole, rest) := s.span Text.isDigit
    match rest with
    | [] => !whole.isEmpty
    | '.' :: digits => !digits.isEmpty && digits.all Text.isDigit
    | _ => false
  | _ => false

/-- The options that an argument with dashes may stand for when it is none of the names. -/
def candidates (all : List (String × Switch)) (arg : List Char) : List Token :=
  match arg with
  | '-' :: '-' :: _ =>
    let (start, attached) := splitEquals arg
    all.filterMap fun (name, s) =>
      if start.isPrefixOf name.toList then
        some (.switch s (attachedValue attached))
      else none
  | _ =>
    let short := String.ofList (arg.take 2)
    all.filterMap fun (name, s) =>
      if name = short then some (.switch s (.tail (String.ofList (arg.drop 2))))
      else if arg.isPrefixOf name.toList then some (.switch s .nothing)
      else none

/-- What an argument is that starts with a dash and has more characters. -/
def dashed (all : List (String × Switch)) (arg : String) : Except Usage Token :=
  let chars := arg.toList
  let exact (name : List Char) := all.find? (·.1.toList == name)
  match exact chars with
  | some (_, s) => .ok (.switch s .nothing)
  | none =>
    let (start, attached) := splitEquals chars
    match attached, exact start with
    | some value, some (name, s) =>
      let text := String.ofList value
      .ok (.switch s (if isShort name.toList then .tail text else .value text))
    | _, _ =>
      match candidates all chars with
      | [token] => .ok token
      | _ :: _ :: _ => .error .wrong
      | [] =>
        if isNegativeNumber chars || chars.contains ' ' then .ok (.plain arg)
        else .ok .unknown

/-- What an argument is; a name that may stand for several options is an error. -/
def token (all : List (String × Switch)) (arg : String) : Except Usage Token :=
  match arg.toList with
  | '-' :: _ :: _ => dashed all arg
  | _ => .ok (.plain arg)

/-- What the arguments are. -/
def tokens (all : List (String × Switch)) : List String → Except Usage (List Token)
  | [] => .ok []
  | arg :: rest =>
    if arg = "--" then .ok (.separator :: rest.map .plain)
    else
      match token all arg, tokens all rest with
      | .ok t, .ok more => .ok (t :: more)
      | .error u, _ => .error u
      | _, .error u => .error u

/-- A value that an option or a command is given. Two dashes as a value are taken away, and nothing
is left of it. -/
abbrev Argument := Option String

/-- The value that a text gives. -/
def Argument.ofText (text : String) : Argument :=
  if text = "--" then none else some text

/-- What has been read. -/
structure Given where
  /-- The options with their values, the last one first. -/
  switches : List (Switch × Argument) := []
  /-- The arguments that are no options. -/
  values : List Argument := []
  /-- Whether some argument belongs to nothing. -/
  stray : Bool := false

namespace Given

/-- Whether an option is given. -/
def has (g : Given) (s : Switch) : Bool :=
  g.switches.any (·.1 == s)

/-- The value of an option. -/
def value? (g : Given) (s : Switch) : Argument :=
  (g.switches.find? (·.1 == s)).bind (·.2)

/-- Note an option with a value. -/
def put (g : Given) (s : Switch) (value : String) : Given :=
  { g with switches := (s, Argument.ofText value) :: g.switches }

/-- Note an option without a value. What is attached to it must be names of one letter. -/
def putFlag (g : Given) (all : List (String × Switch)) (s : Switch) (attached : Attached) :
    Except Usage Given :=
  let fits := match attached with
    | .nothing => true
    | .value _ => false
    | .tail text =>
      text != "" && text.toList.all fun c => all.any fun (name, _) => name.toList == ['-', c]
  if !fits then .error .wrong
  else if s = .help then .error .help
  else .ok { g with switches := (s, none) :: g.switches }

end Given

/-- Read the options before the name of the command. What is left after that name belongs to the
command, as it was given. -/
def readProgram (all : List (String × Switch)) :
    List (Token × String) → Given → Except Usage (Given × String × List String)
  | [], _ => .error .wrong
  | (.plain name, _) :: rest, g => .ok (g, name, rest.map (·.2))
  | (.separator, _) :: _, _ => .error .wrong
  | (.unknown, _) :: rest, g => readProgram all rest { g with stray := true }
  | (.switch s attached, _) :: rest, g =>
    if s.takesValue then
      match attached.value?, rest with
      | some value, rest => readProgram all rest (g.put s value)
      | none, (.plain value, _) :: rest => readProgram all rest (g.put s value)
      | none, _ => .error .wrong
    else
      match g.putFlag all s attached with
      | .ok g => readProgram all rest g
      | .error u => .error u

/-- What the token before says about the next one. -/
inductive Before where
  /-- It was a value. -/
  | value
  /-- It was the separator, and belongs to the value after it. -/
  | separator
  | other
deriving DecidableEq, Repr

/-- Read the arguments of a command that takes so many values. The separator belongs to the value
before it or else to the one after it, and keeps that from being taken away. -/
def readCommand (all : List (String × Switch)) (count : Nat) :
    List Token → Before → Given → Except Usage Given
  | [], _, g => if g.values.length < count then .error .wrong else .ok g
  | .plain text :: rest, before, g =>
    if g.values.length < count then
      let value := if before = .separator then some text else Argument.ofText text
      readCommand all count rest .value { g with values := g.values ++ [value] }
    else readCommand all count rest .other { g with stray := true }
  | .separator :: rest, before, g =>
    if before = .value then readCommand all count rest .other g
    else if g.values.length < count then readCommand all count rest .separator g
    else readCommand all count rest .other { g with stray := true }
  | .unknown :: rest, _, g => readCommand all count rest .other { g with stray := true }
  | .switch s attached :: rest, _, g =>
    if s.takesValue then
      match attached.value?, rest with
      | some value, rest => readCommand all count rest .other (g.put s value)
      | none, .plain value :: rest => readCommand all count rest .other (g.put s value)
      | none, _ => .error .wrong
    else
      match g.putFlag all s attached with
      | .ok g => readCommand all count rest .other g
      | .error u => .error u

/-! ### Commands -/

/-- What the program is asked to do. -/
inductive Command where
  /-- Apply a patch to a document and write the result to a file, or print it. -/
  | apply (patch document : Argument) (predicates : Bool) (output : Argument)
  /-- Print the value that a pointer leads to. -/
  | pointer (path document : Argument)
  /-- Evaluate a predicate. -/
  | check (predicate document : Argument)
deriving DecidableEq, Repr

/-- A command and the log level for it. -/
structure Invocation where
  logLevel : Argument
  command : Command
deriving DecidableEq, Repr

/-- The options of the program. -/
def programSwitches : List Switch := [.help, .logLevel]

/-- The commands by name, each with its options and with what it makes of its two values. -/
def commands : List (String × List Switch × (Given → Argument → Argument → Command)) := [
  ("apply", [.help, .predicates, .output], fun g patch document =>
    .apply patch document (g.has .predicates) (g.value? .output)),
  ("pointer", [.help], fun _ path document => .pointer path document),
  ("check", [.help], fun _ predicate document => .check predicate document)]

/-- Read the arguments of one command. -/
def readNamed (name : String) (args : List String) : Except Usage (Command × Bool) :=
  match commands.find? (·.1 == name) with
  | none => .error .wrong
  | some (_, switches, make) =>
    let all := named switches
    match tokens all args with
    | .error u => .error u
    | .ok ts =>
      match readCommand all 2 ts .other {} with
      | .error u => .error u
      | .ok g =>
        match g.values with
        | [first, second] => .ok (make g first second, g.stray)
        | _ => .error .wrong

/-- The command that the arguments ask for. -/
def read (args : List String) : Except Usage Invocation :=
  let all := named programSwitches
  match tokens all args with
  | .error u => .error u
  | .ok ts =>
    match readProgram all (ts.zip args) {} with
    | .error u => .error u
    | .ok (g, name, rest) =>
      match readNamed name rest with
      | .error u => .error u
      | .ok (command, stray) =>
        if g.stray || stray then .error .wrong
        else .ok { logLevel := g.value? .logLevel, command }

end JsonPatch.CommandLine
