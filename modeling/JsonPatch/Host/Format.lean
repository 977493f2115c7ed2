import JsonPatch.Fault
import JsonPatch.Text.Digit

/-! # Format texts with one integer

A text can be a format: a percent sign starts a directive, which shows the next argument.  A
directive has flags, a width, a precision, a length and at its end a letter for the way in which
the argument is shown.  Here the arguments are a single integer, and `check` says what is wrong
with a format for it. -/

namespace JsonPatch.Host.Format

/-- What can be a format. -/
inductive Carrier where
  | text
  | bytes
deriving DecidableEq, Repr

/-- The name of a carrier in messages. -/
def Carrier.name : Carrier → String
  | text => "string"
  | bytes => "bytes"

/-- What is wrong with a format. -/
inductive Mistake where
  /-- A directive without an end. -/
  | incomplete
  /-- A directive for an argument with a name. -/
  | named
  /-- More directives than arguments. -/
  | tooFew
  /-- No directive for the argument. -/
  | unused
  | wideWidth
  | widePrecision
  /-- A directive for byte strings. -/
  | bytesWanted
  /-- A letter that shows nothing, at an index; it may have ended a number. -/
  | letter (c : Char) (index : Nat) (endsNumber : Bool)

/-- The fault of a mistake. -/
def Mistake.fault (carrier : Carrier) : Mistake → Fault
  | incomplete => .raised .value "incomplete format"
  | named => .raised .type "format requires a mapping"
  | tooFew => .raised .type "not enough arguments for format string"
  | unused =>
    .raised .type ("not all arguments converted during " ++ carrier.name ++ " formatting")
  | wideWidth => .raised .value "width too big"
  | widePrecision =>
    .raised .value (if carrier = .text then "precision too big" else "prec too big")
  | bytesWanted =>
    .raised .type
      "%b requires a bytes-like object, or an object that implements __bytes__, not 'int'"
  | letter c index endsNumber =>
    if carrier = .bytes && 0x80 ≤ c.toNat && !endsNumber then
      .raised .range "character argument not in range(0x110000)"
    else
      let isShown := carrier = .bytes || (0x1f ≤ c.toNat && c.toNat < 0x7f)
      .raised .value ("unsupported format character '" ++ (if isShown then c else '?').toString ++
        "' (0x" ++ String.ofList (Nat.toDigits 16 c.toNat) ++ ") at index " ++ toString index)

/-- A flag of a directive. -/
def isFlag (c : Char) : Bool :=
  ['-', '+', ' ', '#', '0'].contains c

/-- The letters that show an integer. -/
def integerLetters (carrier : Carrier) : List Char :=
  "racdiuoxXeEfFgG".toList ++ (if carrier = .text then ['s'] else [])

/-- The bounds on widths and precisions. -/
def widthLimit : Nat := 0x7fffffffffffffff
def precisionLimit : Nat := 0x7fffffff

/-- The rest of a format, and whether the argument has been used. -/
structure Rest where
  used : Bool
  chars : List Char
  /-- Whether digits stand directly before the rest. -/
  afterDigits : Bool := false

/-- Read a number in a directive: a star, which stands for the next argument, or digits. -/
def number (limit : Nat) (tooWide : Mistake) (r : Rest) : Except Mistake Rest :=
  match r.chars with
  | '*' :: chars => if r.used then .error .tooFew else .ok { used := true, chars }
  | chars =>
    let digits := chars.takeWhile Text.isAsciiDigit
    let value := digits.foldl (fun n c => n * 10 + (c.toNat - '0'.toNat)) 0
    if limit < value then .error tooWide
    else .ok { r with chars := chars.drop digits.length, afterDigits := !digits.isEmpty }

/-- Read the precision of a directive, if there is one. -/
def precision (r : Rest) : Except Mistake Rest :=
  match r.chars with
  | '.' :: chars => number precisionLimit .widePrecision { r with chars }
  | _ => .ok r

/-- Leave out the length of a directive. -/
def afterLength (r : Rest) : Rest :=
  match r.chars with
  | 'h' :: chars | 'l' :: chars | 'L' :: chars => { used := r.used, chars }
  | _ => r

/-- Read the letter of a directive in a format of a size. -/
def letter (carrier : Carrier) (size : Nat) (r : Rest) : Except Mistake Rest :=
  let r := afterLength r
  match r.chars with
  | [] => .error .incomplete
  | c :: chars =>
    if r.used then .error .tooFew
    else if (integerLetters carrier).contains c then .ok { used := true, chars }
    else if carrier = .bytes && (c == 's' || c == 'b') then .error .bytesWanted
    else .error (.letter c (size - chars.length - 1) r.afterDigits)

/-- Read a directive after its percent sign; a second one stands for itself. -/
def directive (carrier : Carrier) (size : Nat) (r : Rest) : Except Mistake Rest :=
  match r.chars with
  | '%' :: chars => .ok { r with chars }
  | '(' :: _ => .error .named
  | chars => do
    let r ← number widthLimit .wideWidth { used := r.used, chars := chars.dropWhile isFlag }
    let r ← precision r
    letter carrier size r

/-- Read a format of a size. Each round takes a character. -/
def read (carrier : Carrier) (size : Nat) : Nat → Rest → Except Mistake Unit
  | 0, _ => .ok ()
  | fuel + 1, r =>
    match r.chars with
    | [] => if r.used then .ok () else .error .unused
    | '%' :: chars =>
      match directive carrier size { r with chars } with
      | .ok r => read carrier size fuel r
      | .error m => .error m
    | _ :: chars => read carrier size fuel { r with chars }

/-- What is wrong with a format for one integer, if anything is. -/
def check (carrier : Carrier) (format : List Char) : Except Fault Unit :=
  (read carrier format.length (format.length + 1)
    { used := false, chars := format }).mapError (·.fault carrier)

end JsonPatch.Host.Format
