import JsonPatch.Text.Quoted

/-! # Faults of patterns

What can be wrong with the text of a pattern.  Most problems have a position in the text, which
the message gives; for a pattern of several lines the message adds line and column. -/

namespace JsonPatch.Pattern

/-- A problem at one place of a pattern. -/
inductive Problem where
  | badEscape (text : String)
  | escapeAtEnd
  | incompleteEscape (text : String)
  | octalOutOfRange (text : String)
  | undefinedName (name : String)
  | missing (what : String)
  | unterminatedName (terminator : Char)
  | unterminatedSet
  | unterminatedComment
  | unterminatedGroup
  | badRange (text : String)
  | repeatBoundsReversed
  | nothingToRepeat
  | multipleRepeat
  | unexpectedEnd
  | unknownExtension (text : String)
  | badGroupName (name : String)
  | unknownGroup (name : String)
  | groupRedefined (name : String) (new old : Nat)
  | openGroup
  | groupOfSameLookbehind
  | invalidGroup (n : Nat)
  | groupZero
  | thirdAlternative
  | lateFlags
  | localeFlag
  | incompatibleFlags
  | unknownFlag
  | globalFlagTurnedOn
  | globalFlagTurnedOff
  | typeFlagTurnedOff
  | flagTurnedOnAndOff
  | unbalanced

/-- The wording of a problem. -/
def Problem.message : Problem → String
  | badEscape text => "bad escape " ++ text
  | escapeAtEnd => "bad escape (end of pattern)"
  | incompleteEscape text => "incomplete escape " ++ text
  | octalOutOfRange text => "octal escape value " ++ text ++ " outside of range 0-0o377"
  | undefinedName name => "undefined character name " ++ Text.quoted name
  | missing what => "missing " ++ what
  | unterminatedName terminator => "missing " ++ terminator.toString ++ ", unterminated name"
  | unterminatedSet => "unterminated character set"
  | unterminatedComment => "missing ), unterminated comment"
  | unterminatedGroup => "missing ), unterminated subpattern"
  | badRange text => "bad character range " ++ text
  | repeatBoundsReversed => "min repeat greater than max repeat"
  | nothingToRepeat => "nothing to repeat"
  | multipleRepeat => "multiple repeat"
  | unexpectedEnd => "unexpected end of pattern"
  | unknownExtension text => "unknown extension " ++ text
  | badGroupName name => "bad character in group name " ++ Text.quoted name
  | unknownGroup name => "unknown group name " ++ Text.quoted name
  | groupRedefined name new old =>
    "redefinition of group name " ++ Text.quoted name ++ " as group " ++ toString new ++
      "; was group " ++ toString old
  | openGroup => "cannot refer to an open group"
  | groupOfSameLookbehind => "cannot refer to group defined in the same lookbehind subpattern"
  | invalidGroup n => "invalid group reference " ++ toString n
  | groupZero => "bad group number"
  | thirdAlternative => "conditional backref with more than two branches"
  | lateFlags => "global flags not at the start of the expression"
  | localeFlag => "bad inline flags: cannot use 'L' flag with a str pattern"
  | incompatibleFlags => "bad inline flags: flags 'a', 'u' and 'L' are incompatible"
  | unknownFlag => "unknown flag"
  | globalFlagTurnedOn => "bad inline flags: cannot turn on global flag"
  | globalFlagTurnedOff => "bad inline flags: cannot turn off global flag"
  | typeFlagTurnedOff => "bad inline flags: cannot turn off flags 'a', 'u' and 'L'"
  | flagTurnedOnAndOff => "bad inline flags: flag turned on and off"
  | unbalanced => "unbalanced parenthesis"

/-- Why a text is no pattern. -/
inductive Fault where
  /-- A problem at a position of the pattern. -/
  | located (problem : Problem) (pattern : List Char) (position : Nat)
  /-- A look-behind whose body can match texts of different lengths. -/
  | variableLookbehind
  /-- A look-behind that reaches back too far. -/
  | farLookbehind
  /-- A match that leaves a group with its end before its start. -/
  | crossedGroup
  /-- A repetition under the template flag. -/
  | templateRepeat (operator : String)
  /-- Both flags that choose a character set. -/
  | conflictingSets
  /-- A repetition count with too many digits to be read. -/
  | longNumber (digits : Nat)
  /-- A repetition count above the limit. -/
  | hugeRepeat
  /-- An escaped code point above the range of machine integers. -/
  | hugeCode

/-- The sorts of pattern faults: a mistake in the pattern, a bad value, a number out of range, a
pattern beyond what can be run, and a run that went wrong. -/
inductive FaultSort where
  | mistake
  | value
  | range
  | runtime
  | system
deriving DecidableEq

/-- The sort of a fault. -/
def Fault.sort : Fault → FaultSort
  | conflictingSets | longNumber _ => .value
  | hugeRepeat | hugeCode => .range
  | farLookbehind => .runtime
  | crossedGroup => .system
  | _ => .mistake

/-- The message for a number with more decimal digits than are read or written, with the number
of its digits if it is known. -/
def tooManyDigits (digits : Option Nat) : String :=
  "Exceeds the limit (4300 digits) for integer string conversion" ++
    (match digits with
      | some n => ": value has " ++ toString n ++ " digits"
      | none => "") ++
    "; use sys.set_int_max_str_digits() to increase the limit"

/-- The place in a pattern: its position and, in a pattern of several lines, line and column. -/
def place (pattern : List Char) (position : Nat) : String :=
  let before := pattern.take position
  let line := before.count '\n' + 1
  let column := (before.reverse.takeWhile (· != '\n')).length + 1
  " at position " ++ toString position ++
    (if pattern.contains '\n' then
      " (line " ++ toString line ++ ", column " ++ toString column ++ ")" else "")

/-- The wording of a fault. -/
def Fault.message : Fault → String
  | located problem pattern position => problem.message ++ place pattern position
  | variableLookbehind => "look-behind requires fixed-width pattern"
  | farLookbehind => "invalid SRE code"
  | crossedGroup =>
    "The span of capturing group is wrong, please report a bug for the re module."
  | templateRepeat operator => "internal: unsupported template operator " ++ operator
  | conflictingSets => "ASCII and UNICODE flags are incompatible"
  | longNumber digits => tooManyDigits (some digits)
  | hugeRepeat => "the repetition number is too large"
  | hugeCode => "Python int too large to convert to C int"

end JsonPatch.Pattern
