import SubtitleCoverage.Text.LetterCase
import SubtitleCoverage.Text.Decomposition
import SubtitleCoverage.Text.Mark

/-!
# Collation

Titles are compared without regard to accents and letter case, so that `Émile` sorts with `emile`
and not after `z`. The order itself is that of the code points of the keys.

## Main definitions

* `collationKey` — what is compared in place of a text: its compatibility decomposition without
  the combining marks, in lower case. Marks are dropped, so the order in which a decomposed text
  lists them cannot be seen.
-/

namespace SubtitleCoverage.Text

/-- The characters of a text, decomposed and without combining marks. -/
def baseChars (cs : List Char) : List Char := (cs.flatMap decompose).filter fun c => !isMark c

/-- The text compared in place of `s`. -/
def collationKey (s : String) : String := String.ofList (lowerChars (baseChars s.toList))

end SubtitleCoverage.Text
