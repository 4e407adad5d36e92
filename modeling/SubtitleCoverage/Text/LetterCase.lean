import SubtitleCoverage.Text.LetterCase.LowerTable
import SubtitleCoverage.Text.LetterCase.ContextTable

/-!
# Lower case

The lower case of a text replaces every capital by its partner. Two capitals are special: `İ`
becomes two characters, and a sigma at the end of a word becomes the final sigma `ς`.

## Main definitions

* `lowerChar` — the lower case of one character, sigma at the end of a word aside.
* `lowerChars`, `lower` — the lower case of a text.
-/

namespace SubtitleCoverage.Text

/-! ### One character -/

/-- The distance from a code point to its lower-case partner: the shift of the run that covers
it. The runs come in ascending order, so the search ends at the first that begins beyond. -/
def lowerShift : List CaseRun → Nat → Int
  | [], _ => 0
  | r :: rs, n => if n < r.first then 0 else if r.covers n then r.shift else lowerShift rs n

/-- The lower case of one character outside any word. -/
def lowerChar (c : Char) : List Char :=
  if c = 'İ' then ['i', '\u0307']
  else [Char.ofNat (c.toNat + lowerShift lowerRuns c.toNat).toNat]

/-! ### The place of a sigma in its word -/

/-- Whether a character has, or is, an upper or lower case. -/
def isCased (c : Char) : Bool := inRanges casedRanges c.toNat

/-- Whether a character is passed over when the nearest letter is sought. -/
def isCaseIgnorable (c : Char) : Bool := inRanges caseIgnorableRanges c.toNat

/-- Whether the first character that is not passed over is cased. -/
def startsCased : List Char → Bool
  | [] => false
  | c :: cs => if isCaseIgnorable c then startsCased cs else isCased c

/-- Whether the nearest character before the next one that is not passed over is cased, after a
character `c` has been read. -/
def casedAfter (before : Bool) (c : Char) : Bool :=
  if isCaseIgnorable c then before else isCased c

/-! ### Texts -/

/-- The lower case of the characters `cs`, where `before` tells whether the nearest character in
front of them that is not passed over is cased. -/
def lowerFrom (before : Bool) : List Char → List Char
  | [] => []
  | c :: cs =>
    (if c = 'Σ' then [if before && !startsCased cs then 'ς' else 'σ'] else lowerChar c) ++
      lowerFrom (casedAfter before c) cs

@[simp] theorem lowerFrom_nil (before : Bool) : lowerFrom before [] = [] := rfl

/-- The lower case of a list of characters. -/
def lowerChars (cs : List Char) : List Char := lowerFrom false cs

/-- The lower case of a text. -/
def lower (s : String) : String := String.ofList (lowerChars s.toList)

@[simp] theorem toList_lower (s : String) : (lower s).toList = lowerChars s.toList := by
  simp [lower]

end SubtitleCoverage.Text
