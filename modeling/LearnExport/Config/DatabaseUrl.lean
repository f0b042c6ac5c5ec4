import LearnExport.Text.Ascii
import LearnExport.Text.Pieces

/-!
# The syntax of a database's address

The address of the database is a URL: a scheme, then after two slashes an
optional user, a host and an optional port. An address that breaks this syntax
is reported before any connection is tried.
-/

namespace LearnExport

/-- What is wrong with the syntax of a URL. -/
inductive UrlFault where
  | noScheme
  | emptyHost
  | badPort
  | badIpv6
  | badHostCharacter
deriving DecidableEq, Repr

/-- The message about a URL that cannot be read. -/
def UrlFault.message : UrlFault → String
  | noScheme => "relative URL without a base"
  | emptyHost => "empty host"
  | badPort => "invalid port number"
  | badIpv6 => "invalid IPv6 address"
  | badHostCharacter => "invalid domain character"

/-- What is reported of a connection that could not be tried, each line with the
one below as its cause. -/
def UrlFault.chain (fault : UrlFault) : List String :=
  ["failed to connect to DATABASE_URL", "error with configuration: " ++ fault.message,
    fault.message]

namespace DatabaseUrl

/-- Control characters and the space are cut off at the ends of a URL. -/
def isCutOff (character : Char) : Bool :=
  character ≤ ' '

/-- The characters of a URL that count: what is cut off at the ends, and tabs
and line ends anywhere, do not. -/
def significant (url : List Char) : List Char :=
  let trimmed := ((url.dropWhile isCutOff).reverse.dropWhile isCutOff).reverse
  trimmed.filter fun character => character != '\t' && character != '\n' && character != '\r'

/-- Whether a character can stand in a scheme after its first letter. -/
def isSchemeCharacter (character : Char) : Bool :=
  character.isAlphanum || character == '+' || character == '-' || character == '.'

/-- What follows the scheme of a URL and its colon, if it has one. -/
def afterScheme? : List Char → Option (List Char)
  | [] => none
  | first :: rest =>
      if first.isAlpha then
        match rest.dropWhile isSchemeCharacter with
        | ':' :: others => some others
        | _ => none
      else none

/-- Whether a character ends the part of a URL that names user, host and
port. -/
def endsAuthority (character : Char) : Bool :=
  character == '/' || character == '?' || character == '#'

/-- The parts of a text before and after the last at sign in it. -/
def splitAtLastAt (text : List Char) : Option (List Char × List Char) :=
  (Text.splitAtFirst '@' text.reverse).map fun parts => (parts.2.reverse, parts.1.reverse)

/-- Splits a host from what follows it; a colon between brackets belongs to the
host. -/
def splitHost (inBrackets : Bool) : List Char → List Char × List Char
  | [] => ([], [])
  | character :: rest =>
      if character == ':' && !inBrackets then ([], character :: rest)
      else
        let bracketed := character == '[' || (inBrackets && character != ']')
        let parts := splitHost bracketed rest
        (character :: parts.1, parts.2)

/-- Whether a text is a group of an IPv6 address: one to four hexadecimal
digits. -/
def isHexGroup (group : List Char) : Bool :=
  !group.isEmpty && group.length ≤ 4 && group.all fun digit => (Text.hexDigit? digit).isSome

/-- Whether a text is a part of an IPv4 address: a number below 256 without
leading zeros. -/
def isDottedPart (part : List Char) : Bool :=
  match Text.numeral? part with
  | some number => number < 256 && part == Text.decimal number
  | none => false

/-- Whether a text is an IPv4 address. -/
def isDotted (text : List Char) : Bool :=
  let parts := Text.pieces '.' text
  parts.length == 4 && parts.all isDottedPart

/-- The number of 16-bit groups that the groups of an IPv6 address stand for;
the last may be an IPv4 address, which stands for two. -/
def countGroups? : List (List Char) → Option Nat
  | [] => some 0
  | [last] => if isHexGroup last then some 1 else if isDotted last then some 2 else none
  | group :: others => if isHexGroup group then (countGroups? others).map (· + 1) else none

/-- The parts of an address before and after the first two colons in a row. -/
def splitAtDoubleColon : List Char → Option (List Char × List Char)
  | [] => none
  | ':' :: ':' :: rest => some ([], rest)
  | character :: rest =>
      (splitAtDoubleColon rest).map fun parts => (character :: parts.1, parts.2)

/-- The groups of a part of an address. -/
def groupsOf (text : List Char) : List (List Char) :=
  if text.isEmpty then [] else Text.pieces ':' text

/-- Whether a text is an IPv6 address: eight groups, or fewer with two colons in
the place of those left out. -/
def isIpv6 (text : List Char) : Bool :=
  match splitAtDoubleColon text with
  | none => countGroups? (groupsOf text) == some 8
  | some (before, after) =>
      (groupsOf before).all isHexGroup &&
        (countGroups? (groupsOf after)).any fun count => (groupsOf before).length + count ≤ 7

/-- Whether a character cannot stand in the name of a host. -/
def isForbidden (character : Char) : Bool :=
  "\x00\t\n\r #/:<>?@[\\]^|".toList.contains character

def hostFault? (host : List Char) : Option UrlFault :=
  match host with
  | '[' :: rest =>
      if rest.getLast? == some ']' && isIpv6 rest.dropLast then none else some .badIpv6
  | _ => if host.any isForbidden then some .badHostCharacter else none

/-- Whether the text after the colon of a host is no port. -/
def isBadPort (text : List Char) : Bool :=
  let digits := text.takeWhile (· != '\\')
  !digits.isEmpty && (Text.numeral? digits).all (65535 < ·)

/-- What is wrong with user, host and port, given whether they end the URL. -/
def authorityFault? (authority : List Char) (isLast : Bool) : Option UrlFault :=
  let (user, hostAndPort) := (splitAtLastAt authority).getD ([], authority)
  if authority == ['@'] && !isLast then some .emptyHost
  else
    let (host, rest) := splitHost false hostAndPort
    match hostFault? host, rest with
    | some fault, _ => some fault
    | none, ':' :: port =>
        if host.isEmpty then some .emptyHost
        else if isBadPort port then some .badPort
        else none
    | none, _ =>
        if host.isEmpty && !user.isEmpty && user != [':'] then some .emptyHost else none

/-- What is wrong with the syntax of a URL, if anything is. -/
def fault? (url : String) : Option UrlFault :=
  match afterScheme? (significant url.toList) with
  | none => some .noScheme
  | some ('/' :: '/' :: rest) =>
      authorityFault? (rest.takeWhile (!endsAuthority ·)) (rest.all (!endsAuthority ·))
  | some _ => none

end DatabaseUrl

end LearnExport
