import JsonPatch.Environment
import JsonPatch.Json.Utf8
import JsonPatch.Text.Quoted

/-! # The console of a command

What a command can see of the world: the environment, the text on standard input, and files.  What
it does to the world is a report: texts for standard output and standard error, a file to be
written, and an exit status. -/

namespace JsonPatch.CommandLine

/-- Why a file cannot be read or written. -/
inductive FileFault where
  /-- The file, or a directory on the way to it, does not exist. -/
  | missing (name : String)
  /-- The name goes on below a file. -/
  | notDirectory (name : String)
  /-- The name belongs to a directory. -/
  | directory (name : String)
  /-- The name, or a part of it, has too many bytes. -/
  | tooLong (name : String)
  /-- There is a NUL in the name. -/
  | nul
deriving DecidableEq, Repr

/-- The wording of the fault. -/
def FileFault.message : FileFault → String
  | missing name => numbered 2 "No such file or directory" name
  | notDirectory name => numbered 20 "Not a directory" name
  | directory name => numbered 21 "Is a directory" name
  | tooLong name => numbered 36 "File name too long" name
  | nul => "embedded null byte"
where
  /-- The wording of a fault with a number. -/
  numbered (number : Nat) (reason name : String) : String :=
    "[Errno " ++ toString number ++ "] " ++ reason ++ ": " ++ Text.quoted name

/-- What a command can see. -/
structure Console where
  environment : Environment
  /-- The text on standard input. -/
  input : String
  /-- The content of a file. -/
  content : String → Except FileFault (List UInt8)
  /-- The file that is written under a name, if it is one of this console's. -/
  destination : String → Except FileFault (Option String)

/-- What a command does. -/
structure Report where
  status : Nat
  output : String := ""
  errors : String := ""
  /-- A file to be written, with its new content. -/
  written : Option (String × String) := none
deriving DecidableEq, Repr

/-- The parts of a name of a file, without steps that stay in place. -/
def nameParts (name : String) : List String :=
  (name.splitOn "/").filter fun part => part != "" && part != "."

/-- The slashes with which a name starts: two are kept, more are one. -/
def rootOf (name : String) : String :=
  match (name.toList.takeWhile (· == '/')).length with
  | 0 => ""
  | 2 => "//"
  | _ => "/"

/-- A name of a file without needless parts: steps that stay in place, doubled slashes and
slashes at its end. The name without any part is a dot. -/
def plainName (name : String) : String :=
  let plain := rootOf name ++ String.intercalate "/" (nameParts name)
  if plain = "" then "." else plain

/-- The text with every kind of line end turned into a line feed. -/
def unifyLines : List Char → List Char
  | [] => []
  | '\r' :: '\n' :: rest => '\n' :: unifyLines rest
  | '\r' :: rest => '\n' :: unifyLines rest
  | c :: rest => c :: unifyLines rest

/-! ### A directory of files -/

/-- Where the parts of a name lead, step by step. -/
inductive Location where
  /-- The directory of the files, or one below it, by the parts that lead there. -/
  | inside (parts : List String)
  /-- A directory elsewhere. -/
  | outside
  /-- The directory in which all others lie. -/
  | root
  /-- The directory of the devices. -/
  | devices
  /-- The device that is empty and keeps nothing. -/
  | sink
  /-- A file, by its name in the directory. -/
  | file (name : String)
  /-- A name that nothing has yet, in a directory; it is one of those inside if it has a name
  there. -/
  | vacant (name : Option String)
deriving DecidableEq, Repr

/-- The number of bytes of a part above which it is too long. -/
def partLimit : Nat := 255

/-- The number of bytes from which on a name is too long. -/
def nameLimit : Nat := 4096

/-- The directories that lie in the root directory, but for that of the devices. -/
def rootDirectories : List String := [
  "bin", "boot", "etc", "home", "lib", "media", "mnt", "opt", "proc", "root", "run", "sbin", "srv",
  "sys", "tmp", "usr", "var"]

/-- The location of a part that nothing has yet, if it is not too long. -/
def Location.unknown (name part : String) : Except FileFault Location :=
  if partLimit < part.utf8ByteSize then .error (.tooLong name) else .ok (vacant none)

/-- The location that one more part leads to, given the names of all files. -/
def Location.step (files : List String) (name : String) (l : Location) (part : String) :
    Except FileFault Location :=
  match l with
  | file _ | sink => .error (.notDirectory name)
  | vacant _ => .error (.missing name)
  | outside => if part = ".." then .ok outside else unknown name part
  | root =>
    if part = ".." then .ok root
    else if part = "dev" then .ok devices
    else if rootDirectories.contains part then .ok outside
    else unknown name part
  | devices =>
    if part = ".." then .ok root else if part = "null" then .ok sink else unknown name part
  | inside parts =>
    if part = ".." then .ok (if parts.isEmpty then outside else inside parts.dropLast)
    else if partLimit < part.utf8ByteSize then .error (.tooLong name)
    else
      let below := parts ++ [part]
      let joined := String.intercalate "/" below
      if files.contains joined then .ok (file joined)
      else if files.any fun f => below.isPrefixOf (f.splitOn "/") then .ok (inside below)
      else .ok (vacant (some joined))

/-- The location that a plain name leads to. -/
def locate (files : List String) (name : String) : Except FileFault Location :=
  if name.toList.contains (Char.ofNat 0) then .error .nul
  else if nameLimit ≤ name.utf8ByteSize then .error (.tooLong name)
  else
    (nameParts name).foldlM (Location.step files name)
      (if name.startsWith "/" then .root else .inside [])

/-- A console with the given files and no others. -/
def Console.ofFiles (environment : Environment) (input : String)
    (files : List (String × List UInt8)) : Console where
  environment := environment
  input := input
  content := fun name =>
    match locate (Members.names files) name with
    | .ok (.file found) => .ok ((Members.find? found files).getD [])
    | .ok .sink => .ok []
    | .ok (.vacant _) => .error (.missing name)
    | .ok _ => .error (.directory name)
    | .error f => .error f
  destination := fun name =>
    match locate (Members.names files) name with
    | .ok (.file found) => .ok (some found)
    | .ok (.vacant found) => .ok found
    | .ok .sink => .ok none
    | .ok _ => .error (.directory name)
    | .error f => .error f

end JsonPatch.CommandLine
