/-!
# Columns

Tables in plain text are lined up by filling their cells with spaces. A cell is as wide as it has
characters; one that is too wide is left as it is.

## Main definitions

* `alignRight`, `alignLeft` — a cell filled to a width before or after its text.
* `joinWith` — texts with a separator between them.
* `unlines` — texts as lines, each ended by a line feed.
-/

namespace SubtitleCoverage.Text

/-- The spaces that fill a text to a width. -/
def fill (width : Nat) (s : String) : String :=
  String.ofList (List.replicate (width - s.length) ' ')

/-- A text filled with spaces on its left. -/
def alignRight (width : Nat) (s : String) : String := fill width s ++ s

/-- A text filled with spaces on its right. -/
def alignLeft (width : Nat) (s : String) : String := s ++ fill width s

/-- Texts with a separator between them. -/
def joinWith (separator : String) : List String → String
  | [] => ""
  | [s] => s
  | s :: t :: ts => s ++ separator ++ joinWith separator (t :: ts)

/-- Texts as lines, each ended by a line feed. -/
def unlines : List String → String
  | [] => ""
  | s :: ss => s ++ "\n" ++ unlines ss

end SubtitleCoverage.Text
