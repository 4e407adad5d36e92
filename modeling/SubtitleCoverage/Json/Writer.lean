import SubtitleCoverage.Json.Value

/-!
# Writing JSON

Values are written without blanks. In a string only what has to be escaped is escaped: quotes,
backslashes and control characters.

## Main definitions

* `tokens` — the lexical elements of a value.
* `Token.bytes` — the bytes of a lexical element.
* `render`, `renderText` — a value as bytes and as a text.
-/

namespace SubtitleCoverage.Json

open Text

/-! ### Tokens of a value -/

mutual

/-- The tokens of a value. -/
def tokens : Json → List Token
  | .null => [.null]
  | .bool true => [.true]
  | .bool false => [.false]
  | .num n => [.num n]
  | .str s => [.str s]
  | .arr xs => .openBracket :: elementTokens xs
  | .obj ms => .openBrace :: memberTokens ms
  | .garbled => [.garbled]

/-- The tokens of the elements of an array and of its end. -/
def elementTokens : List Json → List Token
  | [] => [.closeBracket]
  | [x] => tokens x ++ [.closeBracket]
  | x :: y :: xs => tokens x ++ .comma :: elementTokens (y :: xs)

/-- The tokens of the members of an object and of its end. -/
def memberTokens : List (String × Json) → List Token
  | [] => [.closeBrace]
  | [(name, x)] => .str name :: .colon :: tokens x ++ [.closeBrace]
  | (name, x) :: m :: ms => .str name :: .colon :: tokens x ++ .comma :: memberTokens (m :: ms)

end

/-! ### Bytes of a token -/

/-- The lower-case hexadecimal digit of a number below sixteen. -/
def hexDigit (n : Nat) : UInt8 := UInt8.ofNat (if n < 10 then 0x30 + n else 0x57 + n)

/-- How a byte of a text is written between quotes. -/
def escape (b : UInt8) : Bytes :=
  if b = 0x22 ∨ b = 0x5C then [0x5C, b]
  else if b = 0x08 then [0x5C, 0x62]
  else if b = 0x09 then [0x5C, 0x74]
  else if b = 0x0A then [0x5C, 0x6E]
  else if b = 0x0C then [0x5C, 0x66]
  else if b = 0x0D then [0x5C, 0x72]
  else if b < 0x20 then
    [0x5C, 0x75, 0x30, 0x30, hexDigit (b.toNat / 16), hexDigit (b.toNat % 16)]
  else [b]

/-- The decimal digits of a natural number as bytes. -/
def natBytes (n : Nat) : Bytes := (digits n).map fun d => UInt8.ofNat (0x30 + d)

/-- The bytes of an integer. -/
def intBytes (n : Int) : Bytes := if n < 0 then 0x2D :: natBytes n.natAbs else natBytes n.natAbs

/-- The bytes of a number. -/
def Numeral.bytes : Numeral → Bytes
  | .int n => intBytes n
  | .real negative significand exponent =>
    (if negative then [0x2D] else []) ++ natBytes significand ++ 0x65 :: intBytes exponent

/-- The bytes of a lexical element. A string that is no text is written as half a pair. -/
def Token.bytes : Token → Bytes
  | .openBrace => [0x7B]
  | .closeBrace => [0x7D]
  | .openBracket => [0x5B]
  | .closeBracket => [0x5D]
  | .colon => [0x3A]
  | .comma => [0x2C]
  | .null => [0x6E, 0x75, 0x6C, 0x6C]
  | .true => [0x74, 0x72, 0x75, 0x65]
  | .false => [0x66, 0x61, 0x6C, 0x73, 0x65]
  | .num n => n.bytes
  | .str s => 0x22 :: (utf8Bytes s).flatMap escape ++ [0x22]
  | .garbled => [0x22, 0x5C, 0x75, 0x64, 0x38, 0x30, 0x30, 0x22]

/-- A value as bytes. -/
def render (j : Json) : Bytes := (tokens j).flatMap Token.bytes

/-- A value as a text. -/
def renderText (j : Json) : String := utf8Text (render j)

end SubtitleCoverage.Json
