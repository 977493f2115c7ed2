import JsonPatch.Operation.Edit

/-! # Sums of values

A host program adds to a value in its place: numbers are added, texts, frozen arrays and byte
strings are put together, and an array takes the parts of whatever has parts. -/

namespace JsonPatch.Host

/-- What adding to a value gives: another value without parts, or the array, frozen or not, with
the parts of the added value behind its own. -/
inductive Sum where
  | value (v : Value)
  | longer

/-- The number that a value stands for; a boolean counts as zero or one. -/
def number? : Value → Option Number
  | .number n => some n
  | .bool b => some (.int (if b then 1 else 0))
  | _ => none

/-- A number as a double. An integer that is out of range is a fault. -/
def toDouble : Number → Except Fault Double
  | .double d => .ok d
  | .int n =>
    match Double.ofInt n with
    | .infinity _ => .error (.raised .range "int too large to convert to float")
    | d => .ok d

/-- The sum of two numbers; it is an integer if both are. -/
def addNumbers : Number → Number → Except Fault Number
  | .int m, .int n => .ok (.int (m + n))
  | m, n =>
    match toDouble m, toDouble n with
    | .ok x, .ok y => .ok (.double (x.add y))
    | .error f, _ => .error f
    | _, .error f => .error f

/-- The fault of two values that cannot be added. -/
def mismatch (v w : Value) : Fault :=
  .raised .type
    ("unsupported operand type(s) for +=: '" ++ v.typeName ++ "' and '" ++ w.typeName ++ "'")

/-- Add a value to another one. -/
def add (v w : Value) : Except Fault Sum :=
  match v, w with
  | .string s, .string t => .ok (.value (.string (s ++ t)))
  | .string _, _ =>
    .error (.raised .type ("can only concatenate str (not \"" ++ w.typeName ++ "\") to str"))
  | .tuple _, .tuple _ => .ok .longer
  | .tuple _, _ =>
    .error (.raised .type ("can only concatenate tuple (not \"" ++ w.typeName ++ "\") to tuple"))
  | .bytes first, .bytes second => .ok (.value (.bytes (first ++ second)))
  | .bytes _, _ => .error (.raised .type ("can't concat " ++ w.typeName ++ " to bytes"))
  | .array _, _ =>
    match w.parts? with
    | some _ => .ok .longer
    | none => .error (.raised .type ("'" ++ w.typeName ++ "' object is not iterable"))
  | _, _ =>
    match number? v, number? w with
    | some m, some n => (addNumbers m n).map fun sum => .value (.number sum)
    | _, _ => .error (mismatch v w)

end JsonPatch.Host
