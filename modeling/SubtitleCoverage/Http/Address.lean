import SubtitleCoverage.Http.Host
import SubtitleCoverage.Text.Decimal

/-!
# Addresses on the web

An address names a server and what is asked of it. A user may write it loosely: letter case, back
slashes, dots in the path and characters that have to be encoded do not matter.

## Main definitions

* `Address` — a server, a path and a query.
* `Address.ofText?` — the address that a text means.
* `Address.withQuery` — an address with more in its query.
-/

namespace SubtitleCoverage.Http

open Text

/-- The protocols. -/
inductive Scheme where
  | http
  | https
deriving DecidableEq, Repr

/-- An address. -/
structure Address where
  scheme : Scheme
  host : String
  port : Nat
  path : String
  query : Option String := none
deriving DecidableEq, Repr

/-- The port of a protocol if none is named. -/
def Scheme.port : Scheme → Nat
  | .http => 80
  | .https => 443

/-- The protocol with a name, in any letter case. -/
def Scheme.ofName? (s : String) : Option Scheme :=
  match s.toLower with
  | "http" => some .http
  | "https" => some .https
  | _ => none

namespace Address

/-! ### Parts of a text -/

/-- Whether a character is dropped at the ends of an address. -/
def isOuter (c : Char) : Bool := c.toNat ≤ 0x20

/-- Whether a character is dropped wherever it is. -/
def isDropped (c : Char) : Bool := c = '\t' || c = '\n' || c = '\r'

/-- The characters of a text that count. -/
def cleaned (s : String) : List Char :=
  ((s.toList.dropWhile isOuter).reverse.dropWhile isOuter).reverse.filter fun c => !isDropped c

/-- Whether a character parts the segments of a path. -/
def isSlash (c : Char) : Bool := c = '/' || c = '\\'

/-- Whether a character ends the name of a server. -/
def endsServer (c : Char) : Bool := isSlash c || c = '?' || c = '#'

/-- The characters after the last at sign, before which stand a name and a password. -/
def afterUser (cs : List Char) : List Char := (cs.reverse.takeWhile (· ≠ '@')).reverse

/-- A host and what follows it. The colons in brackets belong to the host. -/
def splitHost (cs : List Char) : List Char × List Char :=
  match cs with
  | '[' :: _ => ((cs.takeWhile (· ≠ ']')) ++ [']'], (cs.dropWhile (· ≠ ']')).drop 1)
  | _ => (cs.takeWhile (· ≠ ':'), cs.dropWhile (· ≠ ':'))

/-- The port after a host. -/
def port? (scheme : Scheme) : List Char → Option Nat
  | [] | [':'] => some scheme.port
  | ':' :: cs =>
    (cs.mapM digitValue?).bind fun ds =>
      if ofDigits ds < UInt16.size then some (ofDigits ds) else none
  | _ => none

/-- Whether a character of a path stays as it is. -/
def staysInPath (c : Char) : Bool :=
  0x20 < c.toNat && c.toNat < 0x7F && !"\"#<>?`\x7b\x7d".toList.contains c

/-- Whether a character of a query stays as it is. -/
def staysInQuery (c : Char) : Bool :=
  0x20 < c.toNat && c.toNat < 0x7F && !"\"#<>'".toList.contains c

/-- Some characters with their encoded dots decoded. -/
def decodeDots : List Char → List Char
  | '%' :: '2' :: 'e' :: cs | '%' :: '2' :: 'E' :: cs => '.' :: decodeDots cs
  | c :: cs => c :: decodeDots cs
  | [] => []

/-- A segment of a path with its encoded dots decoded. -/
def plainDots (segment : String) : String := String.ofList (decodeDots segment.toList)

/-- Whether a segment names a drive: a letter and a colon, or a bar in its place. -/
def isDrive (segment : String) : Bool :=
  match segment.toList with
  | [letter, mark] => letter.isAlpha && (mark = ':' || mark = '|')
  | _ => false

/-- The segments after going up, the latest of which comes first. No way leads up from a drive. -/
def goUp : List String → List String
  | [] => []
  | segment :: before => if isDrive segment then segment :: before else before

/-- Adds a segment to those of a path, the latest of which comes first. One dot stands for nothing,
two for going up. -/
def addSegment (isLast : Bool) (before : List String) (segment : String) : List String :=
  let stay := fun (rest : List String) => if isLast then "" :: rest else rest
  match plainDots segment with
  | "." => stay before
  | ".." => stay (goUp before)
  | _ => percentEncode staysInPath segment :: before

/-- The segments of a path after those in `before`, the latest of which comes first. -/
def addSegments : List String → List (List Char) → List String
  | before, [] => before
  | before, [last] => addSegment true before (String.ofList last)
  | before, s :: ss => addSegments (addSegment false before (String.ofList s)) ss

/-- The path that some characters mean. -/
def normalPath (cs : List Char) : String :=
  let segments := (if cs.head?.any isSlash then cs.drop 1 else cs).splitOnP isSlash
  String.join ((addSegments [] segments).reverse.map fun s => "/" ++ s)

/-- The query that some characters mean, if they begin with a question mark. -/
def normalQuery : List Char → Option String
  | '?' :: cs => some (percentEncode staysInQuery (String.ofList (cs.takeWhile (· ≠ '#'))))
  | _ => none

/-! ### Addresses -/

/-- The address that a text means. -/
def ofText? (s : String) : Option Address := do
  let cs := cleaned s
  let scheme ← Scheme.ofName? (String.ofList (cs.takeWhile (· ≠ ':')))
  -- Any number of slashes after the colon will do.
  let rest := ((cs.dropWhile (· ≠ ':')).drop 1).dropWhile isSlash
  let (name, after) := splitHost (afterUser (rest.takeWhile fun c => !endsServer c))
  let rest := rest.dropWhile fun c => !endsServer c
  return {
    scheme
    host := ← hostName? name
    port := ← port? scheme after
    path := normalPath (rest.takeWhile fun c => c ≠ '?' && c ≠ '#')
    query := normalQuery (rest.dropWhile fun c => c ≠ '?' && c ≠ '#') }

/-- The address with more names and values in its query. -/
def withQuery (a : Address) (pairs : List (String × String)) : Address :=
  if pairs = [] then a
  else
    let before := match a.query with
      | none | some "" => ""
      | some query => query ++ "&"
    { a with query := some (before ++ formPairs pairs) }

end Address

end SubtitleCoverage.Http
