import SubtitleCoverage.Text.Hex
import SubtitleCoverage.Text.Utf8

/-!
# Percent encoding

In addresses a byte that has no place there is written as a percent sign and two upper-case
hexadecimal digits.

## Main definitions

* `percentEncode` — a text in which some bytes stay as they are.
* `formEncode`, `formPairs` — the encoding of names and values in queries.
* `percentDecode` — the bytes behind an encoded text.
-/

namespace SubtitleCoverage.Text

/-- The upper-case hexadecimal digit of a number below sixteen. -/
def upperHexChar (n : Nat) : Char := (hexChar n).toUpper

/-- A byte as a percent sign and two digits. -/
def percentByte (b : UInt8) : List Char :=
  ['%', upperHexChar (b.toNat / 16), upperHexChar (b.toNat % 16)]

/-- The bytes of a text, where those in `keep` stay as they are. -/
def percentEncode (keep : Char → Bool) (s : String) : String :=
  String.ofList ((utf8Bytes s).flatMap fun b =>
    let c := Char.ofNat b.toNat
    if b < 0x80 && keep c then [c] else percentByte b)

/-- The characters that stay as they are in names and values of a query. -/
def isFormSafe (c : Char) : Bool := c.isAlphanum || "*-._".toList.contains c

/-- A name or value of a query; a space becomes a plus sign. -/
def formEncode (s : String) : String :=
  String.ofList ((utf8Bytes s).flatMap fun b =>
    let c := Char.ofNat b.toNat
    if b = 0x20 then ['+'] else if b < 0x80 && isFormSafe c then [c] else percentByte b)

/-- Names and values as a query. -/
def formPairs : List (String × String) → String
  | [] => ""
  | [(name, value)] => formEncode name ++ "=" ++ formEncode value
  | (name, value) :: e :: es =>
    formEncode name ++ "=" ++ formEncode value ++ "&" ++ formPairs (e :: es)

/-- The bytes behind an encoded text. A percent sign without two digits stands for itself. -/
def percentDecode : Bytes → Bytes
  | 0x25 :: a :: b :: bs =>
    match hexValue? (Char.ofNat a.toNat), hexValue? (Char.ofNat b.toNat) with
    | some x, some y => UInt8.ofNat (16 * x + y) :: percentDecode bs
    | _, _ => 0x25 :: percentDecode (a :: b :: bs)
  | b :: bs => b :: percentDecode bs
  | [] => []

end SubtitleCoverage.Text
