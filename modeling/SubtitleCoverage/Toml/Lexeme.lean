import SubtitleCoverage.Text.Hex

/-!
# Lexical elements of TOML

Blanks, comments, line ends, keys and strings of TOML 1.0. Every reader takes the characters that
are left and gives back what it has read together with the characters after it.

## Main definitions

* `skipBlanks`, `endLine`, `skipFiller` — what stands between other elements.
* `readKey`, `readKeys` — keys, and keys joined by dots.
* `readString` — strings of all four kinds.
-/

namespace SubtitleCoverage.Toml

open Text

/-! ### Blanks and comments -/

/-- The blanks inside a line. -/
def isLineBlank (c : Char) : Bool := c = ' ' || c = '\t'

/-- The characters of a comment: all but control characters. -/
def isCommentChar (c : Char) : Bool :=
  c = '\t' || (0x20 ≤ c.toNat && c.toNat ≤ 0x7E) || 0x80 ≤ c.toNat

/-- The characters after blanks. -/
def skipBlanks (cs : List Char) : List Char := cs.dropWhile isLineBlank

/-- The characters after a comment, if one comes. -/
def skipComment : List Char → List Char
  | '#' :: cs => cs.dropWhile isCommentChar
  | cs => cs

/-- The characters after a line end, which may be the end of the text. -/
def skipLineEnd : List Char → Option (List Char)
  | [] => some []
  | '\n' :: cs => some cs
  | '\r' :: '\n' :: cs => some cs
  | _ => none

/-- The characters after the rest of a line that holds blanks and a comment at most. -/
def endLine (cs : List Char) : Option (List Char) := skipLineEnd (skipComment (skipBlanks cs))

/-- The characters after any blanks, line ends and comments. -/
def skipFiller (inComment : Bool) : List Char → List Char
  | [] => []
  | '\n' :: cs => skipFiller false cs
  | '\r' :: '\n' :: cs => skipFiller false cs
  | c :: cs =>
    if inComment then (if isCommentChar c then skipFiller true cs else c :: cs)
    else if c = '#' then skipFiller true cs
    else if isLineBlank c then skipFiller false cs
    else c :: cs

/-! ### Strings -/

/-- The character that a backslash and a letter stand for. -/
def escapedChar : Char → Option Char
  | 'b' => some '\x08'
  | 't' => some '\t'
  | 'n' => some '\n'
  | 'f' => some '\x0c'
  | 'r' => some '\r'
  | '"' => some '"'
  | '\\' => some '\\'
  | _ => none

/-- The character with a number, which must not be half of a pair. -/
def scalar? (n : Nat) : Option Char := if n.isValidChar then some (Char.ofNat n) else none

/-- The character of hexadecimal digits. -/
def hexScalar? (ds : List Char) : Option Char := (readHex ds).bind scalar?

/-- Whether a character may stand in a string of one line that shows what it means. -/
def isLiteralChar (c : Char) : Bool := isCommentChar c && c != '\''

/-- Whether a character may stand for itself in a string with escapes. -/
def isBasicChar (c : Char) : Bool := isCommentChar c && c != '"' && c != '\\'

/-- Puts a character in front of what has been read. -/
def consRead (c : Char) (r : Option (List Char × List Char)) : Option (List Char × List Char) :=
  r.map fun (s, rest) => (c :: s, rest)

/-- A string of one line with escapes, after its opening quote. -/
def readBasic : List Char → Option (List Char × List Char)
  | [] => none
  | '"' :: cs => some ([], cs)
  | '\\' :: 'u' :: a :: b :: c :: d :: cs => do consRead (← hexScalar? [a, b, c, d]) (readBasic cs)
  | '\\' :: 'U' :: a :: b :: c :: d :: e :: f :: g :: h :: cs => do
    consRead (← hexScalar? [a, b, c, d, e, f, g, h]) (readBasic cs)
  | '\\' :: c :: cs => do consRead (← escapedChar c) (readBasic cs)
  | c :: cs => if isBasicChar c then consRead c (readBasic cs) else none

/-- A string of one line without escapes, after its opening quote. -/
def readLiteral : List Char → Option (List Char × List Char)
  | [] => none
  | '\'' :: cs => some ([], cs)
  | c :: cs => if isLiteralChar c then consRead c (readLiteral cs) else none

/-- Where a string of several lines with escapes has come to. -/
inductive Continuation where
  | none
  /-- After a backslash at the end of a line, before the line end. -/
  | lineEnd
  /-- After such a line end: blanks and line ends do not count. -/
  | skipping
deriving DecidableEq

/-- A string of several lines with escapes, after its opening quotes. Up to two quotes in front of
the closing ones belong to it. -/
def readBasicLines (at_ : Continuation) : List Char → Option (List Char × List Char)
  | [] => none
  | '\r' :: '\n' :: cs =>
    if at_ = .none then consRead '\n' (readBasicLines .none cs) else readBasicLines .skipping cs
  | '\n' :: cs =>
    if at_ = .none then consRead '\n' (readBasicLines .none cs) else readBasicLines .skipping cs
  | ' ' :: cs =>
    if at_ = .none then consRead ' ' (readBasicLines .none cs) else readBasicLines at_ cs
  | '\t' :: cs =>
    if at_ = .none then consRead '\t' (readBasicLines .none cs) else readBasicLines at_ cs
  | '"' :: '"' :: '"' :: '"' :: '"' :: cs => if at_ = .lineEnd then none else some (['"', '"'], cs)
  | '"' :: '"' :: '"' :: '"' :: cs => if at_ = .lineEnd then none else some (['"'], cs)
  | '"' :: '"' :: '"' :: cs => if at_ = .lineEnd then none else some ([], cs)
  | '"' :: cs => if at_ = .lineEnd then none else consRead '"' (readBasicLines .none cs)
  | '\\' :: 'u' :: a :: b :: c :: d :: cs => do
    if at_ = .lineEnd then none
    else consRead (← hexScalar? [a, b, c, d]) (readBasicLines .none cs)
  | '\\' :: 'U' :: a :: b :: c :: d :: e :: f :: g :: h :: cs => do
    if at_ = .lineEnd then none
    else consRead (← hexScalar? [a, b, c, d, e, f, g, h]) (readBasicLines .none cs)
  | '\\' :: '\r' :: '\n' :: cs => if at_ = .lineEnd then none else readBasicLines .skipping cs
  | '\\' :: c :: cs => do
    if at_ = .lineEnd then none
    else if c = '\n' then readBasicLines .skipping cs
    else if isLineBlank c then readBasicLines .lineEnd cs
    else consRead (← escapedChar c) (readBasicLines .none cs)
  | c :: cs =>
    if at_ ≠ .lineEnd ∧ isBasicChar c then consRead c (readBasicLines .none cs) else none

/-- A string of several lines without escapes, after its opening quotes. -/
def readLiteralLines : List Char → Option (List Char × List Char)
  | [] => none
  | '\r' :: '\n' :: cs => consRead '\n' (readLiteralLines cs)
  | '\n' :: cs => consRead '\n' (readLiteralLines cs)
  | '\'' :: '\'' :: '\'' :: '\'' :: '\'' :: cs => some (['\'', '\''], cs)
  | '\'' :: '\'' :: '\'' :: '\'' :: cs => some (['\''], cs)
  | '\'' :: '\'' :: '\'' :: cs => some ([], cs)
  | '\'' :: cs => consRead '\'' (readLiteralLines cs)
  | c :: cs => if isLiteralChar c then consRead c (readLiteralLines cs) else none

/-- The characters after a line end directly behind opening quotes, which does not count. -/
def skipFirstLineEnd : List Char → List Char
  | '\n' :: cs => cs
  | '\r' :: '\n' :: cs => cs
  | cs => cs

/-- A string. -/
def readString : List Char → Option (List Char × List Char)
  | '"' :: '"' :: '"' :: cs => readBasicLines .none (skipFirstLineEnd cs)
  | '"' :: cs => readBasic cs
  | '\'' :: '\'' :: '\'' :: cs => readLiteralLines (skipFirstLineEnd cs)
  | '\'' :: cs => readLiteral cs
  | _ => none

/-! ### Keys -/

/-- Whether a character may stand in a key without quotes. -/
def isBareKeyChar (c : Char) : Bool := c.isAlphanum || c = '-' || c = '_'

/-- A key: a bare word or a string of one line. -/
def readKey : List Char → Option (String × List Char)
  | '"' :: cs => (readBasic cs).map fun (s, rest) => (String.ofList s, rest)
  | '\'' :: cs => (readLiteral cs).map fun (s, rest) => (String.ofList s, rest)
  | cs =>
    let word := cs.takeWhile isBareKeyChar
    if word = [] then none else some (String.ofList word, cs.drop word.length)

/-- Up to `most` keys joined by dots, with blanks around them. -/
def readKeys : Nat → List Char → Option (List String × List Char)
  | 0, _ => none
  | most + 1, cs => do
    let (key, cs) ← readKey (skipBlanks cs)
    match skipBlanks cs with
    | '.' :: cs =>
      let (keys, cs) ← readKeys most cs
      return (key :: keys, cs)
    | cs => return ([key], cs)

end SubtitleCoverage.Toml
