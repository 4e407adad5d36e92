import SubtitleCoverage.OrderedMap
import SubtitleCoverage.Text.Hex

/-!
# Universal names

A universal name is made of 128 bits. They are written as 32 lower-case hexadecimal digits with
hyphens after the 8th, 12th, 16th and 20th; they are read with or without the hyphens and in any
letter case, the hyphenated form also in braces or behind `urn:uuid:`. Batch jobs have such names.

## Main definitions

* `Uuid` — the names.
* `Uuid.hex`, `Uuid.text` — the digits, bare and with hyphens.
* `Uuid.ofText?` — the name that a text stands for.
* `JobId` — the names of batch jobs.
-/

namespace SubtitleCoverage

open Text

/-- A name of 128 bits. -/
structure Uuid where
  bits : BitVec 128
deriving DecidableEq, Repr, Inhabited

namespace Uuid

/-- The name with a number. -/
def ofNat (n : Nat) : Uuid := ⟨BitVec.ofNat 128 n⟩

/-! ### Writing -/

/-- The 32 digits of a name. -/
def hex (i : Uuid) : String := String.ofList (hexChars 32 i.bits.toNat)

/-- The lengths of the groups of digits between the hyphens. -/
def groups : List Nat := [8, 4, 4, 4, 12]

/-- Splits characters into groups of the given lengths with hyphens between them. -/
def hyphenate : List Nat → List Char → List Char
  | [], _ => []
  | [n], cs => cs.take n
  | n :: ns, cs => cs.take n ++ '-' :: hyphenate ns (cs.drop n)

/-- A name with hyphens. -/
def text (i : Uuid) : String := String.ofList (hyphenate groups (hexChars 32 i.bits.toNat))

/-! ### Reading -/

/-- The characters of groups of the given lengths, if hyphens stand between them. -/
def joinGroups : List Nat → List Char → Option (List Char)
  | [], cs => if cs = [] then some [] else none
  | [n], cs => if cs.length = n then some cs else none
  | n :: ns, cs =>
    match cs.drop n with
    | '-' :: rest => (joinGroups ns rest).map (cs.take n ++ ·)
    | _ => none

/-- The name of 32 digits. -/
def ofDigits? (cs : List Char) : Option Uuid :=
  if cs.length = 32 then (readHex cs).map ofNat else none

/-- The name of digits with hyphens. -/
def ofHyphenated? (cs : List Char) : Option Uuid := (joinGroups groups cs).bind ofDigits?

/-- The characters after a word given in lower case, whatever the case of its letters. -/
def afterWord? : List Char → List Char → Option (List Char)
  | [], cs => some cs
  | w :: ws, c :: cs => if c.toLower = w then afterWord? ws cs else none
  | _ :: _, [] => none

/-- The name that a text stands for. -/
def ofText? (s : String) : Option Uuid :=
  let cs := s.toList
  if cs.length = 32 then ofDigits? cs
  else
    match cs with
    | '\x7b' :: cs => if cs.getLast? = some '\x7d' then ofHyphenated? cs.dropLast else none
    | cs =>
      match afterWord? "urn:uuid:".toList cs with
      | some cs => ofHyphenated? cs
      | none => ofHyphenated? cs

end Uuid

/-- The name of a batch job. -/
structure JobId where
  uuid : Uuid
deriving DecidableEq, Repr, Inhabited

namespace JobId

/-- Names are ordered as numbers, which is the order of their texts. -/
instance : KeyOrder JobId :=
  .ofInt (fun i => i.uuid.bits.toNat) fun ⟨⟨_⟩⟩ ⟨⟨_⟩⟩ h =>
    congrArg (mk ∘ Uuid.mk) (BitVec.eq_of_toNat_eq (Int.ofNat.inj h))

/-- The job whose name is a number. -/
def ofNat (n : Nat) : JobId := ⟨.ofNat n⟩

/-- The name with hyphens. -/
def text (i : JobId) : String := i.uuid.text

/-- The job that a text names. -/
def ofText? (s : String) : Option JobId := (Uuid.ofText? s).map .mk

end JobId

end SubtitleCoverage
