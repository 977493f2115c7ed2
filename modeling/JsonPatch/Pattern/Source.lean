import JsonPatch.Pattern.Basic

/-! # Reading a pattern token by token

A token is one character or a backslash with the character after it.  The source keeps the rest
of the pattern and the position at which it starts; a backslash at the very end is a fault as
soon as it comes next. -/

namespace JsonPatch.Pattern

/-- One character, or a backslash with the character after it. -/
inductive Token where
  | char (c : Char)
  | escape (c : Char)
deriving DecidableEq, Repr

/-- The characters of a token. -/
def Token.text : Token → List Char
  | char c => [c]
  | escape c => ['\\', c]

/-- What has been read so far: the rest of the pattern and what is known about its groups. -/
structure Progress where
  pattern : List Char
  rest : List Char
  position : Nat
  flags : Flags
  /-- The numbers of the named groups. -/
  names : List (String × Nat)
  /-- The widths of the groups so far, the first one first; an open group has none. -/
  widths : List (Option Width)
  /-- The number of the first group that would open inside the outermost look-behind. -/
  lookbehind : Option Nat
  /-- The groups that conditionals name by number, with the place of the first mention. -/
  mentions : List (Nat × Nat)

/-- Reading with a fault as the other outcome. -/
abbrev Reading := StateT Progress (Except Fault)

/-- Fail at a number of characters before the next token. -/
def failBefore {α : Type} (offset : Nat) (problem : Problem) : Reading α := do
  let s ← get
  throw (.located problem s.pattern (s.position - offset))

/-- Fail at a position. -/
def failAt {α : Type} (position : Nat) (problem : Problem) : Reading α := do
  let s ← get
  throw (.located problem s.pattern position)

/-- The next token, if there is one. -/
def firstToken : List Char → Option Token
  | [] => none
  | ['\\'] => none
  | '\\' :: c :: _ => some (.escape c)
  | c :: _ => some (.char c)

/-- The next token. -/
def peek : Reading (Option Token) := do
  return firstToken (← get).rest

/-- A backslash with nothing after it is a fault. -/
def checkEnd : Reading Unit := do
  let s ← get
  if s.rest == ['\\'] then
    throw (.located .escapeAtEnd s.pattern s.position)

/-- Go back or forth to a position. -/
def seek (position : Nat) : Reading Unit := do
  modify fun s => { s with rest := s.pattern.drop position, position }
  checkEnd

/-- Take the next token. -/
def next : Reading (Option Token) := do
  let token ← peek
  if let some t := token then
    let n := t.text.length
    modify fun s => { s with rest := s.rest.drop n, position := s.position + n }
    checkEnd
  return token

/-- Take the next token if it is the given character. -/
def accept (c : Char) : Reading Bool := do
  if (← peek) == some (.char c) then
    let _ ← next
    return true
  return false

/-- Take at most `limit` characters of a class. -/
def takeUpTo (isMember : Char → Bool) : Nat → Reading (List Char)
  | 0 => return []
  | limit + 1 => do
    match ← peek with
    | some (.char c) =>
      if isMember c then
        let _ ← next
        return c :: (← takeUpTo isMember limit)
      return []
    | _ => return []

/-- Take all characters of a class. -/
def takeAll (isMember : Char → Bool) : Reading (List Char) := do
  takeUpTo isMember (← get).rest.length

/-- Take tokens up to a terminator: the text before it, which must not be empty. -/
def takeUntil (terminator : Char) (what : String) : Reading (List Char) := do
  go ((← get).rest.length + 1) []
where
  /-- The text read so far stands before what is still to come. -/
  go : Nat → List Char → Reading (List Char)
    | 0, text => return text
    | fuel + 1, text => do
      match ← next with
      | none =>
        if text.isEmpty then failBefore 0 (.missing what)
        else failBefore text.length (.unterminatedName terminator)
      | some t =>
        if t == .char terminator then
          if text.isEmpty then failBefore 1 (.missing what) else return text
        else go fuel (text ++ t.text)

end JsonPatch.Pattern
