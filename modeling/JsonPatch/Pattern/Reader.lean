import JsonPatch.Pattern.Escape
import JsonPatch.Text.Blank
import JsonPatch.Text.Identifier

/-! # Reading patterns

`Pattern.read` turns a text into a pattern.  A pattern is a choice of sequences; a sequence is a
list of items, each of which may be repeated.  Flags for the whole pattern stand at its start;
flags for a part stand in the group that holds it. -/

namespace JsonPatch.Pattern

/-- The bound on repetition counts. -/
def repeatLimit : Nat := 0xffffffff

/-- The bound on group numbers. -/
def groupLimit : Nat := 1073741823

/-- The bound on the number of digits of a decimal number. -/
def digitLimit : Nat := 4300

/-! ### Sets -/

/-- One end of a range in a set. -/
def setAtom (t : Token) : Reading SetItem :=
  match t with
  | .escape c => setEscape c
  | .char c => return .code c.toNat

/-- The items of a set up to its closing bracket; `start` is the place of the opening one. -/
def setItems (start : Nat) : Nat → List SetItem → Reading (List SetItem)
  | 0, items => return items
  | fuel + 1, items => do
    let some t ← next | failAt start .unterminatedSet
    if t == .char ']' && !items.isEmpty then return items
    let first ← setAtom t
    if !(← accept '-') then
      return ← setItems start fuel (items ++ [first])
    let some u ← next | failAt start .unterminatedSet
    if u == .char ']' then return items ++ [first, .code '-'.toNat]
    let last ← setAtom u
    let text := t.text ++ '-' :: u.text
    match first, last with
    | .code lo, .code hi =>
      if hi < lo then failBefore text.length (.badRange (String.ofList text))
      else setItems start fuel (items ++ [.range lo hi])
    | _, _ => failBefore text.length (.badRange (String.ofList text))

/-- The items without repetitions. -/
def distinct (items : List SetItem) : List SetItem :=
  items.foldl (fun seen item => if seen.contains item then seen else seen ++ [item]) []

/-- A set whose opening bracket has been taken. A set of one code point is that code point. -/
def readSet : Reading Node := do
  let s ← get
  let start := s.position - 1
  let negated ← accept '^'
  let items := distinct (← setItems start (s.rest.length + 1) [])
  return match items with
    | [.code c] => if negated then .notCode c else .code c
    | _ => .set negated items

/-! ### Repetitions -/

/-- The number of decimal digits; too many cannot be read. -/
def readCount (digits : List Char) : Reading Nat := do
  if digitLimit < digits.length then throw (.longNumber digits.length)
  let n := numberOf 10 digits
  if repeatLimit ≤ n then throw .hugeRepeat
  return n

/-- The bounds in braces, whose opening brace has been taken; `none` if the brace stands for
itself. -/
def readBounds : Reading (Option (Nat × Option Nat)) := do
  let start := (← get).position
  if (← peek) == some (.char '\x7d') then return none
  let low ← takeAll Text.isAsciiDigit
  let high ← if ← accept ',' then takeAll Text.isAsciiDigit else pure low
  if !(← accept '\x7d') then
    seek start
    return none
  let least ← if low.isEmpty then pure 0 else readCount low
  if high.isEmpty then return some (least, none)
  let greatest ← readCount high
  if greatest < least then
    failAt start .repeatBoundsReversed
  return some (least, some greatest)

/-- The bounds of a repetition mark that has been taken. -/
def boundsOf (mark : Char) : Reading (Option (Nat × Option Nat)) :=
  match mark with
  | '?' => return some (0, some 1)
  | '*' => return some (0, none)
  | '+' => return some (1, none)
  | _ => readBounds

/-- The body that is repeated: plain groups give theirs, other nodes stand alone. -/
def repeatBody : Node → List Node
  | n@(.group none on off body) => if on == {} && off == {} then body else [n]
  | n => [n]

/-- Repeat the last item of a sequence; `start` is the place of the repetition mark. -/
def repeatLast (start : Nat) (bounds : Nat × Option Nat) (items : List Node) :
    Reading (List Node) := do
  match items.getLast? with
  | none | some (.anchor _) => failAt start .nothingToRepeat
  | some (.repetition ..) => failAt start .multipleRepeat
  | some item =>
    let mode ← if ← accept '?' then pure Mode.lazy
      else if ← accept '+' then pure Mode.possessive
      else pure Mode.greedy
    return items.dropLast ++ [.repetition mode bounds.1 bounds.2 (repeatBody item)]

/-! ### Groups -/

/-- The flag that a letter stands for. -/
def flagOf : Char → Option Flags
  | 'i' => some { ignoreCase := true }
  | 'm' => some { multiline := true }
  | 's' => some { dotAll := true }
  | 'x' => some { verbose := true }
  | 't' => some { template := true }
  | 'a' => some { ascii := true }
  | 'u' => some { unicode := true }
  | _ => none

/-- What a token is where flags are read. -/
inductive FlagToken where
  /-- A flag. -/
  | flag (f : Flags)
  /-- The flag of a locale, which texts do not have. -/
  | locale
  /-- Anything else. -/
  | other (t : Token)

/-- Classify a token where flags are read. -/
def flagToken : Token → FlagToken
  | .char 'L' => .locale
  | t@(.char c) => match flagOf c with
    | some f => .flag f
    | none => .other t
  | t => .other t

/-- The fault for a token that is no flag: a letter is an unknown flag, anything else shows that
something is missing. -/
def notAFlag {α : Type} (what : String) (t : Token) : Reading α :=
  match t with
  | .char c => failBefore 1 (if Text.isLetter c then .unknownFlag else .missing what)
  | .escape _ => failBefore 2 (.missing what)

/-- The flags to turn on, from the first one, which has been taken, to the token after them. -/
def flagsOn : Nat → Token → Flags → Reading (Flags × Token)
  | 0, t, on => return (on, t)
  | fuel + 1, t, on => do
    match flagToken t with
    | .locale => failBefore 0 .localeFlag
    | .other t => notAFlag "-, : or )" t
    | .flag f =>
      let on := on.union f
      if (f.ascii || f.unicode) && on.ascii && on.unicode then failBefore 0 .incompatibleFlags
      let some t ← next | failBefore 0 (.missing "-, : or )")
      if t == .char ')' || t == .char '-' || t == .char ':' then return (on, t)
      flagsOn fuel t on

/-- The flags to turn off, up to the colon after them. -/
def flagsOff : Nat → Token → Flags → Reading Flags
  | 0, _, off => return off
  | fuel + 1, t, off => do
    match flagToken t with
    | .locale => failBefore 0 .typeFlagTurnedOff
    | .other t => notAFlag (if off == {} then "flag" else ":") t
    | .flag f =>
      if f.ascii || f.unicode then failBefore 0 .typeFlagTurnedOff
      let off := off.union f
      let some t ← next | failBefore 0 (.missing ":")
      if t == .char ':' then return off
      flagsOff fuel t off

/-- The flags in a group's head, whose first token has been taken. Flags for the whole pattern
are added at once and give `none`. -/
def readFlags (first : Token) : Reading (Option (Flags × Flags)) := do
  let fuel := (← get).rest.length + 2
  let (on, after) ← if first == .char '-' then pure ({}, first) else flagsOn fuel first {}
  if after == .char ')' then
    modify fun s => { s with flags := s.flags.union on }
    return none
  if on.template then failBefore 1 .globalFlagTurnedOn
  if after == .char ':' then return some (on, {})
  let some t ← next | failBefore 0 (.missing "flag")
  let off ← flagsOff fuel t {}
  if off.template then failBefore 1 .globalFlagTurnedOff
  if on != on.without off then failBefore 1 .flagTurnedOnAndOff
  return some (on, off)

/-- A group name up to a terminator. -/
def readName (terminator : Char) : Reading (List Char) := do
  let name ← takeUntil terminator "group name"
  if !Text.isIdentifier name then
    failBefore (name.length + 1) (.badGroupName (String.ofList name))
  return name

/-- The number of a group that has been named. -/
def numberOfName (name : List Char) : Reading Nat := do
  let s ← get
  match s.names.find? (·.1 == String.ofList name) with
  | some (_, index) => return index
  | none => failBefore (name.length + 1) (.unknownGroup (String.ofList name))

/-- Start a group, named or not, and give its number. -/
def openGroup (name : Option (List Char)) : Reading Nat := do
  let s ← get
  let index := s.widths.length + 1
  let mut names := s.names
  if let some n := name then
    if let some (_, old) := names.find? (·.1 == String.ofList n) then
      failBefore (n.length + 1) (.groupRedefined (String.ofList n) index old)
    names := names ++ [(String.ofList n, index)]
  set { s with widths := s.widths ++ [none], names }
  return index

/-- Close a group and keep the width of its body. -/
def closeGroup (index : Nat) (body : List Node) : Reading Unit :=
  modify fun s => { s with widths := s.widths.set (index - 1) (some (Node.widthAll body)) }

/-- A decimal integer with a sign, blanks around it and single underscores between digits. -/
def readInteger (s : List Char) : Option Int :=
  let trimmed := Text.strip s
  let (negative, digits) := match trimmed with
    | '-' :: rest => (true, rest)
    | '+' :: rest => (false, rest)
    | rest => (false, rest)
  (go digits none 0).map fun n => if negative then -(n : Int) else n
where
  /-- The previous character is a digit or an underscore, and neither at the start. -/
  go : List Char → Option Bool → Nat → Option Nat
    | [], some true, n => some n
    | [], _, _ => none
    | '_' :: rest, some true, n => go rest (some false) n
    | c :: rest, _, n => (Text.digitValue? c).bind fun d => go rest (some true) (n * 10 + d)

/-- The group that a conditional asks for, by name or number. -/
def readCondition : Reading Nat := do
  let name ← takeUntil ')' "group name"
  let index ← if Text.isIdentifier name then numberOfName name
    else
      match if digitLimit < name.countP Text.isDigit then none else readInteger name with
      | none => failBefore (name.length + 1) (.badGroupName (String.ofList name))
      | some n =>
        if n < 0 then failBefore (name.length + 1) (.badGroupName (String.ofList name))
        else if n = 0 then failBefore (name.length + 1) .groupZero
        else if (groupLimit : Int) ≤ n then
          failBefore (name.length + 1) (.invalidGroup n.toNat)
        else
          modify fun s =>
            if s.mentions.any (·.1 == n.toNat) then s
            else { s with
              mentions := s.mentions ++ [(n.toNat, s.position - (name.length + 1))] }
          pure n.toNat
  checkLookbehind index
  return index

/-- Skip a comment up to its closing parenthesis. -/
def skipComment (start : Nat) : Nat → Reading Unit
  | 0 => return
  | fuel + 1 => do
    match ← next with
    | none => failAt start .unterminatedComment
    | some t => if t == .char ')' then return else skipComment start fuel

/-- The closing parenthesis of a group that starts at a position. -/
def expectClose (start : Nat) : Reading Unit := do
  if !(← accept ')') then failAt start .unterminatedGroup

/-- What the head of a group announces. -/
inductive Head where
  | comment
  | flags
  | reference (index : Nat)
  | look (ahead negated : Bool)
  | conditional (index : Nat)
  | atomic
  | capture (name : Option (List Char))
  | plain (on off : Flags)

/-- The head of a group whose parenthesis and question mark have been taken. -/
def readHead (start : Nat) : Reading Head := do
  let some t ← next | failBefore 0 .unexpectedEnd
  match t with
  | .char 'P' =>
    if ← accept '<' then return .capture (some (← readName '>'))
    if ← accept '=' then
      let name ← readName ')'
      let index ← numberOfName name
      if !isClosed (← get) index then failBefore (name.length + 1) .openGroup
      return .reference index
    let some u ← next | failBefore 0 .unexpectedEnd
    failBefore (u.text.length + 2) (.unknownExtension (String.ofList ('?' :: 'P' :: u.text)))
  | .char ':' => return .plain {} {}
  | .char '#' =>
    skipComment start ((← get).rest.length + 1)
    return .comment
  | .char '=' => return .look true false
  | .char '!' => return .look true true
  | .char '<' =>
    let some u ← next | failBefore 0 .unexpectedEnd
    if u == .char '=' then return .look false false
    if u == .char '!' then return .look false true
    failBefore (u.text.length + 2) (.unknownExtension (String.ofList ('?' :: '<' :: u.text)))
  | .char '(' => return .conditional (← readCondition)
  | .char '>' => return .atomic
  | _ =>
    match flagToken t with
    | .other u =>
      if u != .char '-' then
        failBefore (u.text.length + 1) (.unknownExtension (String.ofList ('?' :: u.text)))
    | _ => pure ()
    match ← readFlags t with
    | none => return .flags
    | some (on, off) => return .plain on off

/-! ### Choices and sequences -/

/-- The items of a sequence with those of its plain groups in their place. -/
def openPlain (items : List Node) : List Node :=
  items.flatMap repeatBody

/-- Take out the first nodes that all branches share. -/
def commonStart : Nat → List (List Node) → List Node × List (List Node)
  | 0, branches => ([], branches)
  | fuel + 1, branches =>
    match branches with
    | (n :: _) :: _ =>
      if branches.all fun b => b.head?.any (Node.same n) then
        let (shared, rest) := commonStart fuel (branches.map List.tail)
        (n :: shared, rest)
      else ([], branches)
    | _ => ([], branches)

/-- The items of a branch that is one code point or one set. -/
def branchItems : List Node → Option (List SetItem)
  | [.code c] => some [.code c]
  | [.set false items] => some items
  | _ => none

/-- A choice between branches: what they share comes first, and single characters make a set. -/
def choice (branches : List (List Node)) : List Node :=
  match branches with
  | [branch] => branch
  | _ =>
    let (shared, rest) := commonStart ((branches.head?.map List.length).getD 0) branches
    match rest.mapM branchItems with
    | some sets => shared ++ [.set false (distinct sets.flatten)]
    | none => shared ++ [.alternatives rest]

/-- Skip the rest of a line. -/
def skipLine : Nat → Reading Unit
  | 0 => return
  | fuel + 1 => do
    match ← next with
    | none => return
    | some t => if t == .char '\n' then return else skipLine fuel

mutual

/-- The branches of a choice; `top` holds outside of all groups, and `done` has the branches
read so far. -/
def readChoice : Nat → Bool → Bool → List (List Node) → Reading (List Node)
  | 0, _, _, done => return choice done
  | fuel + 1, verbose, top, done => do
    let branch ← readSequence fuel verbose (top && done.isEmpty) []
    let done := done ++ [branch]
    if ← accept '|' then
      let s ← get
      readChoice fuel (if top then s.flags.verbose else verbose) top done
    else return choice done

/-- The items of a sequence; `first` holds for the one that starts the pattern. -/
def readSequence : Nat → Bool → Bool → List Node → Reading (List Node)
  | 0, _, _, items => return items
  | fuel + 1, verbose, first, items => do
    let start := (← get).position
    match ← peek with
    | none | some (.char '|') | some (.char ')') => return openPlain items
    | some (.escape c) =>
      let _ ← next
      let n ← nodeEscape c
      readSequence fuel verbose first (items ++ [n])
    | some (.char c) =>
      let _ ← next
      if verbose && Text.isAsciiBlank c then
        readSequence fuel verbose first items
      else if verbose && c == '#' then
        skipLine ((← get).rest.length + 1)
        readSequence fuel verbose first items
      else if c == '[' then
        let n ← readSet
        readSequence fuel verbose first (items ++ [n])
      else if c == '.' then readSequence fuel verbose first (items ++ [.any])
      else if c == '^' then readSequence fuel verbose first (items ++ [.anchor .lineStart])
      else if c == '$' then readSequence fuel verbose first (items ++ [.anchor .lineEnd])
      else if c == '*' || c == '+' || c == '?' || c == '\x7b' then
        match ← boundsOf c with
        | none => readSequence fuel verbose first (items ++ [.code c.toNat])
        | some bounds =>
          let items ← repeatLast start bounds items
          readSequence fuel verbose first items
      else if c == '(' then
        let head ← if ← accept '?' then readHead start else pure (Head.capture none)
        match head with
        | .comment => readSequence fuel verbose first items
        | .flags =>
          if !first || !items.isEmpty then failAt start .lateFlags
          readSequence fuel (← get).flags.verbose first items
        | .reference index =>
          let n ← referenceTo index
          readSequence fuel verbose first (items ++ [n])
        | .look ahead negated =>
          let outer := (← get).lookbehind
          if !ahead && outer.isNone then
            modify fun s => { s with lookbehind := some (s.widths.length + 1) }
          let body ← readChoice fuel verbose false []
          if !ahead && outer.isNone then
            modify fun s => { s with lookbehind := none }
          expectClose start
          let n := if negated && body.isEmpty then Node.never else .look ahead negated body
          readSequence fuel verbose first (items ++ [n])
        | .conditional index =>
          let yes ← readSequence fuel verbose false []
          let no ← if ← accept '|' then
              let no ← readSequence fuel verbose false []
              if (← peek) == some (.char '|') then failBefore 0 .thirdAlternative
              pure no
            else pure []
          expectClose start
          readSequence fuel verbose first (items ++ [.conditional index yes no])
        | .atomic =>
          let body ← readChoice fuel verbose false []
          expectClose start
          readSequence fuel verbose first (items ++ [.atomic body])
        | .capture name =>
          let index ← openGroup name
          let body ← readChoice fuel verbose false []
          expectClose start
          closeGroup index body
          readSequence fuel verbose first (items ++ [.group (some index) {} {} body])
        | .plain on off =>
          let inner := (verbose || on.verbose) && !off.verbose
          let body ← readChoice fuel inner false []
          expectClose start
          readSequence fuel verbose first (items ++ [.group none on off body])
      else readSequence fuel verbose first (items ++ [.code c.toNat])

end

/-! ### Checks on the whole pattern -/

/-- The name of a repetition mode in messages. -/
def Mode.name : Mode → String
  | greedy => "MAX_REPEAT"
  | lazy => "MIN_REPEAT"
  | possessive => "POSSESSIVE_REPEAT"

mutual

/-- A look-behind has one length, and nothing is repeated under the template flag. -/
def checkNode (template : Bool) : Node → Except Fault Unit
  | .alternatives branches => checkBranches template branches
  | .group _ _ _ body | .atomic body => checkNodes template body
  | .repetition mode _ _ body =>
    if template then .error (.templateRepeat mode.name) else checkNodes template body
  | .look ahead _ body =>
    let w := Node.widthAll body
    if !ahead && w.least != w.greatest then .error .variableLookbehind
    else checkNodes template body
  | .conditional _ yes no =>
    match checkNodes template yes with
    | .ok () => checkNodes template no
    | r => r
  | _ => .ok ()

/-- The check for each node of a sequence. -/
def checkNodes (template : Bool) : List Node → Except Fault Unit
  | [] => .ok ()
  | n :: rest =>
    match checkNode template n with
    | .ok () => checkNodes template rest
    | r => r

/-- The check for each branch of a choice. -/
def checkBranches (template : Bool) : List (List Node) → Except Fault Unit
  | [] => .ok ()
  | branch :: rest =>
    match checkNodes template branch with
    | .ok () => checkBranches template rest
    | r => r

end

mutual

/-- How far the look-behinds of a node reach back. -/
def reach : Node → Nat
  | .alternatives branches => reachBranches branches
  | .group _ _ _ body | .atomic body | .repetition _ _ _ body => reachAll body
  | .look ahead _ body =>
    max (if ahead then 0 else (Node.widthAll body).least) (reachAll body)
  | .conditional _ yes no => max (reachAll yes) (reachAll no)
  | _ => 0

/-- How far the look-behinds of a sequence reach back. -/
def reachAll : List Node → Nat
  | [] => 0
  | n :: rest => max (reach n) (reachAll rest)

/-- How far the look-behinds of a choice reach back. -/
def reachBranches : List (List Node) → Nat
  | [] => 0
  | branch :: rest => max (reachAll branch) (reachBranches rest)

end

/-- The bound on what look-behinds can reach. -/
def reachLimit : Nat := 0x80000000

/-- A pattern that has been read. -/
structure Compiled where
  flags : Flags
  nodes : List Node
  /-- The number of groups. -/
  groups : Nat

/-- Read a whole pattern. -/
def readAll : Reading Compiled := do
  checkEnd
  let s ← get
  let nodes ← readChoice (3 * s.rest.length + 3) s.flags.verbose true []
  let s ← get
  if s.flags.ascii && s.flags.unicode then throw .conflictingSets
  if (← peek).isSome then failBefore 0 .unbalanced
  for (index, position) in s.mentions do
    if s.widths.length < index then failAt position (.invalidGroup index)
  match checkNodes s.flags.template nodes with
  | .ok () =>
    if reachLimit ≤ reachAll nodes then throw .farLookbehind
    return { flags := s.flags, nodes, groups := s.widths.length }
  | .error f => throw f

/-- Read a pattern, ignoring case if asked to. -/
def read (pattern : List Char) (ignoreCase : Bool) : Except Fault Compiled :=
  (readAll.run
    { pattern, rest := pattern, position := 0, flags := { ignoreCase }, names := [],
      widths := [], lookbehind := none, mentions := [] }).map (·.1)

end JsonPatch.Pattern
