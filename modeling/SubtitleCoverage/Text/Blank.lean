/-!
# Blank characters and trimming

A character is blank when Unicode gives it the property `White_Space`: twenty-five characters,
the ASCII blanks among them. Trimming removes the blanks at the ends of a text and nothing else.

## Main definitions

* `isBlank` — whether a character is blank.
* `trimStartChars`, `trimEndChars`, `trim` — without the blanks before, behind, and on both ends.
* `isBlankText` — whether a text holds nothing but blanks.

## Main results

* `trim_trim` — a text that has been trimmed is not trimmed any further.
-/

namespace SubtitleCoverage.Text

/-- Whether a character has the Unicode property `White_Space`. -/
def isBlank (c : Char) : Bool :=
  let n := c.toNat
  (0x9 ≤ n && n ≤ 0xD) || n == 0x20 || n == 0x85 || n == 0xA0 || n == 0x1680 ||
    (0x2000 ≤ n && n ≤ 0x200A) || n == 0x2028 || n == 0x2029 || n == 0x202F || n == 0x205F ||
    n == 0x3000

/-- The characters from the first one that is not blank. -/
def trimStartChars (cs : List Char) : List Char := cs.dropWhile isBlank

/-- The characters up to the last one that is not blank. -/
def trimEndChars (cs : List Char) : List Char := (cs.reverse.dropWhile isBlank).reverse

/-- The characters between the first and the last one that is not blank. -/
def trimChars (cs : List Char) : List Char := trimEndChars (trimStartChars cs)

/-- A text without the blanks around it. -/
def trim (s : String) : String := String.ofList (trimChars s.toList)

@[simp] theorem toList_trim (s : String) : (trim s).toList = trimChars s.toList := by simp [trim]

/-- Whether a text is empty or holds only blanks. -/
def isBlankText (s : String) : Bool := s.toList.all isBlank

/-! ### Trimming again -/

/-- A text without a blank in front is not trimmed there. -/
theorem trimStartChars_of_head? {cs : List Char} (h : ∀ c ∈ cs.head?, isBlank c = false) :
    trimStartChars cs = cs := by
  cases cs with
  | nil => rfl
  | cons c cs => simp [trimStartChars, h c rfl]

theorem not_isBlank_of_head?_trimStartChars (cs : List Char) :
    ∀ c ∈ (trimStartChars cs).head?, isBlank c = false := by
  intro c hc
  have h := List.head?_dropWhile_not isBlank cs
  rwa [show (cs.dropWhile isBlank).head? = some c from hc] at h

/-- What is left of a text when its end is trimmed begins as the text did. -/
theorem trimEndChars_prefix (cs : List Char) : trimEndChars cs <+: cs := by
  rw [trimEndChars, ← List.reverse_suffix, List.reverse_reverse]
  exact List.dropWhile_suffix _

theorem trimStartChars_trimChars (cs : List Char) : trimStartChars (trimChars cs) = trimChars cs := by
  refine trimStartChars_of_head? fun c hc => not_isBlank_of_head?_trimStartChars cs c ?_
  obtain ⟨es, hes⟩ := trimEndChars_prefix (trimStartChars cs)
  rw [Option.mem_def] at hc ⊢
  rw [← hes, List.head?_append, show (trimEndChars (trimStartChars cs)).head? = some c from hc,
    Option.some_or]

theorem trimEndChars_trimChars (cs : List Char) : trimEndChars (trimChars cs) = trimChars cs := by
  have h := trimStartChars_of_head? (not_isBlank_of_head?_trimStartChars (trimStartChars cs).reverse)
  rw [trimChars, trimEndChars, trimEndChars, List.reverse_reverse]
  exact congrArg List.reverse h

/-- Trimming a text again changes nothing. -/
@[simp] theorem trim_trim (s : String) : trim (trim s) = trim s := by
  rw [trim, toList_trim, trimChars, trimStartChars_trimChars, trimEndChars_trimChars, trim]

end SubtitleCoverage.Text
