import SubtitleCoverage.Text.Decomposition.Table

/-!
# Compatibility decomposition

Many characters stand for a sequence of simpler ones: an accented letter for the letter and its
accent, a ligature for its letters, a Hangul syllable for its two or three jamo.

## Main definitions

* `decompose` — the full compatibility decomposition of one character.
-/

namespace SubtitleCoverage.Text

/-! ### Reading the table -/

/-- The value of a hexadecimal digit in capitals or digits. -/
def hexValue (c : Char) : Nat :=
  if c.toNat < 0x41 then c.toNat - 0x30 else c.toNat - 0x37

/-- What has been read of the row under the pen: the character it is about, the characters
finished so far (the latest first), and the number begun. -/
structure RowDraft where
  about : Option Nat
  parts : List Char
  number : Nat

/-- The table in pages of 256 characters: for each the character's code point and what it stands
for. -/
abbrev DecompositionPages := Array (List (Nat × List Char))

/-- A page is found by the code point without its last two hexadecimal digits. -/
def pageOf (n : Nat) : Nat := n / 256

/-- Enters a finished row on its page. -/
def RowDraft.enter (d : RowDraft) (pages : DecompositionPages) : DecompositionPages :=
  match d.about with
  | none => pages
  | some n => pages.modify (pageOf n) ((n, (Char.ofNat d.number :: d.parts).reverse) :: ·)

/-- Reads one character of the table. -/
def readRow : RowDraft × DecompositionPages → Char → RowDraft × DecompositionPages
  | (d, pages), c =>
    if c = '>' then ({ about := some d.number, parts := [], number := 0 }, pages)
    else if c = '.' then
      ({ d with parts := Char.ofNat d.number :: d.parts, number := 0 }, pages)
    else if c = ' ' || c = '\n' then
      ({ about := none, parts := [], number := 0 }, d.enter pages)
    else ({ d with number := 16 * d.number + hexValue c }, pages)

/-- The table, one page for every 256 code points. -/
def decompositionPages : DecompositionPages :=
  (decompositionRows.foldl readRow
    ({ about := none, parts := [], number := 0 }, Array.replicate 0x1100 [])).2

/-! ### Decomposing -/

/-- The jamo of the Hangul syllable with the given number, counted from the first syllable: a
leading consonant, a vowel, and a trailing consonant if it has one. -/
def jamo (syllable : Nat) : List Char :=
  let leading := Char.ofNat (0x1100 + syllable / 588)
  let vowel := Char.ofNat (0x1161 + syllable % 588 / 28)
  let trailing := syllable % 28
  if trailing = 0 then [leading, vowel] else [leading, vowel, Char.ofNat (0x11A7 + trailing)]

/-- The full compatibility decomposition of a character; a character that has none stands for
itself. -/
def decompose (c : Char) : List Char :=
  let n := c.toNat
  if n < 0xA0 then [c]
  else if 0xAC00 ≤ n && n < 0xAC00 + 11172 then jamo (n - 0xAC00)
  else (((decompositionPages[pageOf n]?).getD []).lookup n).getD [c]

end SubtitleCoverage.Text
