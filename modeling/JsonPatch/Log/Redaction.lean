import JsonPatch.Text.Blank
import JsonPatch.Text.Case
import JsonPatch.Value.Basic

/-! # Redaction

Before a value is logged, everything under a sensitive name and every text with a bearer token
or an e-mail address in it is replaced by a marker.  Only objects and arrays are entered. -/

namespace JsonPatch.Redaction

/-- The sensitive names, in lower case. -/
def sensitiveNames : List String := [
  "authorization", "proxy-authorization", "api_key", "apikey", "api-key", "password", "secret",
  "token", "access_token", "refresh_token", "id_token", "set-cookie", "cookie"]

/-- Whether a name is sensitive, in any case. -/
def isSensitive (name : String) : Bool :=
  sensitiveNames.contains (String.ofList (Text.lowercase name.toList))

/-- The marker in place of a secret. -/
def marker : String := "[REDACTED]"

/-- The marker in place of an e-mail address. -/
def addressMarker : String := "[REDACTED_EMAIL]"

/-! ### Character classes -/

/-- An ASCII letter. -/
def isLetter (c : Char) : Bool :=
  ('A' ≤ c && c ≤ 'Z') || ('a' ≤ c && c ≤ 'z')

/-- An ASCII letter or digit. -/
def isLetterOrDigit (c : Char) : Bool :=
  isLetter c || ('0' ≤ c && c ≤ '9')

/-- The characters beyond ASCII that differ from a letter of ASCII by their case only. -/
def asciiLookalikes : List Char := ['\u0130', '\u0131', '\u017f', '\u212a']

/-- A character of a bearer token. -/
def isTokenChar (c : Char) : Bool :=
  isLetterOrDigit c || ['.', '_', '-'].contains c || asciiLookalikes.contains c

/-- A character before the sign of an e-mail address. -/
def isLocalChar (c : Char) : Bool :=
  isLetterOrDigit c || ['.', '_', '%', '+', '-'].contains c

/-- A character of the domain of an e-mail address. -/
def isDomainChar (c : Char) : Bool :=
  isLetterOrDigit c || ['.', '-'].contains c

/-! ### Secrets in a text -/

/-- Whether some end of the text, from the whole text to the empty one, has a property. -/
def anyTail (p : List Char → Bool) : List Char → Bool
  | [] => p []
  | c :: rest => p (c :: rest) || anyTail p rest

/-- The word before a bearer token. -/
def bearerWord : List Char := ['b', 'e', 'a', 'r', 'e', 'r']

/-- Whether a text starts with white space and a character of a token. -/
def startsWithToken (s : List Char) : Bool :=
  match s.dropWhile Text.isBlank with
  | c :: _ => s.head?.any Text.isBlank && isTokenChar c
  | [] => false

/-- Whether a text starts with a bearer token: the word in any case, white space, and a character
of the token. -/
def startsWithBearer (s : List Char) : Bool :=
  (s.take bearerWord.length).map Char.toLower == bearerWord &&
    startsWithToken (s.drop bearerWord.length)

/-- Whether there is a bearer token in a text. -/
def hasBearer (s : List Char) : Bool :=
  anyTail startsWithBearer s

/-- Whether a text starts with two letters. -/
def startsWithLetters : List Char → Bool
  | c :: d :: _ => isLetter c && isLetter d
  | _ => false

/-- Whether characters of a domain are followed by a dot and two letters. -/
def hasTopDomain : List Char → Bool
  | [] => false
  | c :: rest => (c == '.' && startsWithLetters rest) || (isDomainChar c && hasTopDomain rest)

/-- Whether a text starts with the end of an e-mail address: one character before the sign, the
sign, and the domain. -/
def startsWithAddress : List Char → Bool
  | c :: '@' :: d :: rest => isLocalChar c && isDomainChar d && hasTopDomain rest
  | _ => false

/-- Whether there is an e-mail address in a text. -/
def hasAddress (s : List Char) : Bool :=
  anyTail startsWithAddress s

/-! ### Scrubbing -/

/-- A text, or the marker in its place. -/
def scrubText (s : String) : String :=
  if hasBearer s.toList then marker
  else if hasAddress s.toList then addressMarker
  else s

mutual

/-- The value with its secrets replaced. -/
def scrub : Value → Value
  | .string s => .string (scrubText s)
  | .array items => .array (scrubItems items)
  | .object members => .object (scrubMembers members)
  | v => v

/-- The values of a list with their secrets replaced. -/
def scrubItems : List Value → List Value
  | [] => []
  | v :: rest => scrub v :: scrubItems rest

/-- The members of an object with their secrets replaced. -/
def scrubMembers : Members → Members
  | [] => []
  | (name, v) :: rest =>
    (name, if isSensitive name then .string marker else scrub v) :: scrubMembers rest

end

end JsonPatch.Redaction
