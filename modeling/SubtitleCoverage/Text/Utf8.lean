/-!
# Reading UTF-8

Bytes that are meant to be UTF-8 but may not be are read with replacement: every longest stretch
of bytes that begins a character and does not end one becomes one replacement character, and so
does every byte that cannot begin a character. The reader is a machine with one state, the
character begun, so reading can stop after any byte and go on later.

## Main definitions

* `Pending` — a character of which some bytes are still to come.
* `readUtf8` — the text of some bytes, broken characters replaced.
* `utf8Bytes` — the bytes of a text.
-/

namespace SubtitleCoverage.Text

/-- A list of bytes. -/
abbrev Bytes := List UInt8

/-- The bytes of a text. -/
def utf8Bytes (s : String) : Bytes := s.toUTF8.toList

/-- The text of some bytes, if they are UTF-8. -/
def ofUtf8? (bs : Bytes) : Option String := String.fromUTF8? (ByteArray.mk bs.toArray)

/-- A character begun: its bits so far, how many bytes are to come, and between which bounds the
next of them has to lie. -/
structure Pending where
  bits : Nat
  missing : Nat
  lowest : Nat
  highest : Nat

/-- The character that stands for broken bytes. -/
def replacement : Char := '\uFFFD'

/-- What a byte at the beginning of a character means: a whole character, the first of several
bytes, or nothing. -/
inductive Lead where
  | whole (c : Char)
  | several (p : Pending)
  | broken

/-- The meaning of a byte at the beginning of a character. The bounds on the second byte keep out
overlong forms, surrogates and numbers beyond the last code point. -/
def lead (b : UInt8) : Lead :=
  let n := b.toNat
  if n < 0x80 then .whole (Char.ofNat n)
  else if n < 0xC2 then .broken
  else if n < 0xE0 then .several ⟨n - 0xC0, 1, 0x80, 0xBF⟩
  else if n = 0xE0 then .several ⟨0, 2, 0xA0, 0xBF⟩
  else if n = 0xED then .several ⟨0xD, 2, 0x80, 0x9F⟩
  else if n < 0xF0 then .several ⟨n - 0xE0, 2, 0x80, 0xBF⟩
  else if n = 0xF0 then .several ⟨0, 3, 0x90, 0xBF⟩
  else if n < 0xF4 then .several ⟨n - 0xF0, 3, 0x80, 0xBF⟩
  else if n = 0xF4 then .several ⟨4, 3, 0x80, 0x8F⟩
  else .broken

/-- A byte at the beginning of a character: the characters it completes and the one it begins. -/
def beginChar (b : UInt8) : List Char × Option Pending :=
  match lead b with
  | .whole c => ([c], none)
  | .several p => ([], some p)
  | .broken => ([replacement], none)

/-- One byte: the characters that it completes, and the character that is begun after it. -/
def readByte : Option Pending → UInt8 → List Char × Option Pending
  | none, b => beginChar b
  | some p, b =>
    let n := b.toNat
    if p.lowest ≤ n ∧ n ≤ p.highest then
      let bits := 64 * p.bits + (n - 0x80)
      if p.missing ≤ 1 then ([Char.ofNat bits], none)
      else ([], some ⟨bits, p.missing - 1, 0x80, 0xBF⟩)
    else
      let (cs, next) := beginChar b
      (replacement :: cs, next)

/-- The characters of some bytes that follow the character begun. -/
def readUtf8From : Option Pending → Bytes → List Char
  | none, [] => []
  | some _, [] => [replacement]
  | p, b :: bs => (readByte p b).1 ++ readUtf8From (readByte p b).2 bs

/-- The characters of some bytes, broken characters replaced. -/
def readUtf8 (bs : Bytes) : List Char := readUtf8From none bs

/-- The text of some bytes, broken characters replaced. -/
def utf8Text (bs : Bytes) : String := String.ofList (readUtf8 bs)

end SubtitleCoverage.Text
