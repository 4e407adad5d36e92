import Mathlib.Data.List.DropRight
import SubtitleCoverage.Proofs.Jobs.Pieces
import SubtitleCoverage.Proofs.Text.Utf8

/-!
# Lines of the stream

A line is a word, what follows the word, and a line end: a line feed, possibly after carriage
returns.  Reading it takes the line end off its characters.  Nothing else is lost of it, since
whatever bytes a text ends with, its last character is a line end only if its last byte is one.

## Main definitions

* `lineEnd` — the bytes that end a line.
* `DataLine` — a line that holds a part of an event, with its value.
* `PassedLine` — a line that is passed over: a comment, or one of the words `event`, `id`, `retry`.

## Main results

* `ofBytes_lineEnd`, `DataLine.ofBytes_bytes`, `PassedLine.ofBytes_bytes` — **what each kind of line
  says.**
* `StreamDecoder.push_line` — the decoder takes one line after the other.
-/

namespace SubtitleCoverage

open Text

/-! ### Line ends -/

/-- The byte that may stand before a line feed. -/
def carriageReturn : UInt8 := 0x0D

/-- The end of a line: a line feed after any number of carriage returns. -/
def lineEnd (returns : Nat) : Bytes := List.replicate returns carriageReturn ++ [lineFeed]

theorem forall_mem_lineEnd (returns : Nat) :
    ∀ b ∈ lineEnd returns, b = carriageReturn ∨ b = lineFeed := by
  intro b hb
  rcases List.mem_append.1 hb with hb | hb
  · exact .inl (List.eq_of_mem_replicate hb)
  · exact .inr (List.mem_singleton.1 hb)

theorem ascii_lineEnd (returns : Nat) : ∀ b ∈ lineEnd returns, b < 0x80 := by
  intro b hb
  rcases forall_mem_lineEnd returns b hb with rfl | rfl
  · decide
  · decide

theorem isLineEnd_of_lineEnd (returns : Nat) :
    ∀ c ∈ (lineEnd returns).map asciiChar, isLineEnd c = true := by
  intro c hc
  obtain ⟨b, hb, rfl⟩ := List.mem_map.1 hc
  rcases forall_mem_lineEnd returns b hb with rfl | rfl
  · decide
  · decide

theorem isLineEnd_asciiChar {b : UInt8} (hb : b ≠ carriageReturn) (hb' : b ≠ lineFeed) :
    isLineEnd (asciiChar b) = false := by
  have hfeed : asciiChar b ≠ '\n' := fun h => hb' (asciiChar_injective h)
  have hreturn : asciiChar b ≠ '\r' := fun h => hb (asciiChar_injective h)
  simp only [isLineEnd, hfeed, hreturn, decide_false, Bool.or_self]

theorem not_isLineEnd_of_beyond {c : Char} (h : 0x80 ≤ c.toNat) : isLineEnd c = false := by
  have hfeed : c ≠ '\n' := fun hc => absurd (hc ▸ h) (by decide)
  have hreturn : c ≠ '\r' := fun hc => absurd (hc ▸ h) (by decide)
  simp only [isLineEnd, hfeed, hreturn, decide_false, Bool.or_self]

/-! ### What a line says -/

theorem ofBytes_eq (bs : Bytes) : Line.ofBytes bs = .ofChars ((readUtf8 bs).rdropWhile isLineEnd) :=
  rfl

/-- Line ends at the end of a line do not belong to it. -/
theorem rdropWhile_append_of_all {cs ds : List Char} (hds : ∀ c ∈ ds, isLineEnd c = true) :
    (cs ++ ds).rdropWhile isLineEnd = cs.rdropWhile isLineEnd := by
  rw [List.rdropWhile, List.rdropWhile, List.reverse_append, List.dropWhile_append_of_pos]
  exact fun c hc => hds c (List.mem_reverse.1 hc)

/-- The first character of a line stays unless it is a line end. -/
theorem rdropWhile_cons_of_not {c : Char} (hc : isLineEnd c = false) (cs : List Char) :
    (c :: cs).rdropWhile isLineEnd = c :: cs.rdropWhile isLineEnd := by
  have hsingle : [c].dropWhile isLineEnd = [c] := by
    rw [List.dropWhile_cons_of_neg (by rw [hc]; exact Bool.false_ne_true)]
  rw [List.rdropWhile, List.rdropWhile, List.reverse_cons, List.dropWhile_append, hsingle]
  split
  · next h => rw [List.isEmpty_iff.1 h]; rfl
  · rw [List.reverse_append]; rfl

/-- Characters that are no line ends stay at the beginning of a line. -/
theorem rdropWhile_append_of_none {cs : List Char} (hcs : ∀ c ∈ cs, isLineEnd c = false)
    (ds : List Char) :
    (cs ++ ds).rdropWhile isLineEnd = cs ++ ds.rdropWhile isLineEnd := by
  induction cs with
  | nil => rfl
  | cons c cs ih =>
    obtain ⟨hc, hcs⟩ := List.forall_mem_cons.1 hcs
    rw [List.cons_append, rdropWhile_cons_of_not hc, ih hcs, List.cons_append]

theorem ofBytes_append_lineEnd (bs : Bytes) (returns : Nat) :
    Line.ofBytes (bs ++ lineEnd returns) = Line.ofBytes bs := by
  rw [ofBytes_eq, ofBytes_eq, readUtf8_append_ascii bs (ascii_lineEnd returns),
    rdropWhile_append_of_all (isLineEnd_of_lineEnd returns)]

/-- A line that has nothing but its end is blank. -/
theorem ofBytes_lineEnd (returns : Nat) : Line.ofBytes (lineEnd returns) = .blank :=
  ofBytes_append_lineEnd [] returns

/-- A line says nothing if its first byte is an ASCII one that neither ends a line nor begins the
word for a part of an event. -/
theorem ofBytes_other {b : UInt8} (hb : b < 0x80) (hreturn : b ≠ carriageReturn)
    (hfeed : b ≠ lineFeed) (hd : b ≠ 0x64) (bs : Bytes) : Line.ofBytes (b :: bs) = .other := by
  have hread := readUtf8_append_cons [] bs hb
  have hchar : asciiChar b ≠ 'd' := fun h => hd (asciiChar_injective h)
  rw [List.nil_append, show readUtf8 [] = [] from rfl, List.nil_append] at hread
  rw [ofBytes_eq, hread, rdropWhile_cons_of_not (isLineEnd_asciiChar hreturn hfeed)]
  unfold Line.ofChars
  split
  · next heq => cases heq
  · next heq => exact absurd (List.cons.inj heq).1 hchar
  · rfl

/-! ### Lines that are passed over -/

/-- The words that begin a line that is passed over. -/
inductive PassedWord where
  /-- No word at all. -/
  | comment
  | event
  | id
  | retry
deriving DecidableEq, Repr

/-- The bytes of a word, with the colon after it. -/
def PassedWord.bytes : PassedWord → Bytes
  | .comment => [0x3A]
  | .event => [0x65, 0x76, 0x65, 0x6E, 0x74, 0x3A]
  | .id => [0x69, 0x64, 0x3A]
  | .retry => [0x72, 0x65, 0x74, 0x72, 0x79, 0x3A]

/-- A line that is passed over. -/
structure PassedLine where
  word : PassedWord
  text : Bytes
  returns : Nat
  /-- The line ends at its end only. -/
  unbroken : lineFeed ∉ text

/-- The bytes of a line. -/
def PassedLine.bytes (l : PassedLine) : Bytes := l.word.bytes ++ l.text ++ lineEnd l.returns

/-- A line that is passed over says nothing. -/
theorem PassedLine.ofBytes_bytes (l : PassedLine) : Line.ofBytes l.bytes = .other := by
  rw [bytes, ofBytes_append_lineEnd]
  cases l.word with
  | comment => exact ofBytes_other (by decide) (by decide) (by decide) (by decide) _
  | event => exact ofBytes_other (by decide) (by decide) (by decide) (by decide) _
  | id => exact ofBytes_other (by decide) (by decide) (by decide) (by decide) _
  | retry => exact ofBytes_other (by decide) (by decide) (by decide) (by decide) _

/-! ### Lines of data -/

/-- The word that begins a part of an event, with the colon after it. -/
def dataWord : Bytes := [0x64, 0x61, 0x74, 0x61, 0x3A]

/-- The space that may stand between the colon and the value. -/
def space : UInt8 := 0x20

/-- A line that holds a part of an event. -/
structure DataLine where
  /-- Whether a space stands before the value. -/
  spaced : Bool
  value : Bytes
  returns : Nat
  /-- The line ends at its end only. -/
  unbroken : lineFeed ∉ value
  /-- A carriage return at its end belongs to the line end. -/
  trimmed : value.getLast? ≠ some carriageReturn
  /-- The first space does not belong to the value. -/
  separate : spaced = false → value.head? ≠ some space

/-- The bytes of a line. -/
def DataLine.bytes (l : DataLine) : Bytes :=
  dataWord ++ (if l.spaced then [space] else []) ++ l.value ++ lineEnd l.returns

namespace DataLine

/-- The text of a value does not end with a line end. -/
theorem getLast?_value (l : DataLine) :
    ∀ c ∈ (readUtf8 l.value).getLast?, isLineEnd c = false := by
  intro c hc
  rcases List.eq_nil_or_concat l.value with hnil | ⟨v, b, hv⟩
  · rw [hnil] at hc
    cases hc
  · rw [List.concat_eq_append] at hv
    rw [hv] at hc
    by_cases hb : b < 0x80
    · have hreturn : b ≠ carriageReturn := fun h => l.trimmed (by rw [hv, h, List.getLast?_concat])
      have hfeed : b ≠ lineFeed := fun h => l.unbroken (by rw [hv, h]; simp)
      rw [readUtf8_append_cons v [] hb, show readUtf8 [] = [] from rfl, List.getLast?_concat] at hc
      rw [← Option.some.inj hc]
      exact isLineEnd_asciiChar hreturn hfeed
    · exact not_isLineEnd_of_beyond (beyond_of_getLast? v hb hc)

/-- The text of a value with no space before it does not begin with one. -/
theorem dropSpace_value (l : DataLine) (hspaced : l.spaced = false) :
    dropSpace (readUtf8 l.value) = readUtf8 l.value := by
  have hhead := l.separate hspaced
  unfold dropSpace
  split
  · next cs hcs =>
    cases hv : l.value with
    | nil => rw [hv] at hcs; cases hcs
    | cons b bs =>
      have hb : b ≠ space := fun h => hhead (by rw [hv, h]; rfl)
      rw [hv] at hcs
      by_cases hascii : b < 0x80
      · rw [← List.nil_append (b :: bs), readUtf8_append_cons [] bs hascii] at hcs
        exact absurd (asciiChar_injective (c := space) (List.cons.inj hcs).1) hb
      · have hc := beyond_of_head? hascii bs (c := ' ') (by rw [hcs]; rfl)
        exact absurd hc (by decide)
  · rfl

/-- A line of data says its value. -/
theorem ofBytes_bytes (l : DataLine) : Line.ofBytes l.bytes = .data (utf8Text l.value) := by
  have hascii : ∀ b ∈ dataWord ++ (if l.spaced then [space] else []), b < 0x80 := by
    cases l.spaced <;> simp [dataWord, space]
  have hword : ∀ c ∈ (dataWord ++ (if l.spaced then [space] else [])).map asciiChar,
      isLineEnd c = false := by
    intro c hc
    obtain ⟨b, hb, rfl⟩ := List.mem_map.1 hc
    have hne : b ≠ carriageReturn ∧ b ≠ lineFeed := by
      revert b
      cases l.spaced <;> simp [dataWord, space, carriageReturn, lineFeed]
    exact isLineEnd_asciiChar hne.1 hne.2
  have hvalue : (readUtf8 l.value).rdropWhile isLineEnd = readUtf8 l.value := by
    refine List.rdropWhile_eq_self_iff.2 fun hne hend => ?_
    have hlast := l.getLast?_value _ (List.getLast?_eq_some_getLast hne)
    exact Bool.false_ne_true (hlast.symm.trans hend)
  rw [bytes, ofBytes_append_lineEnd, ofBytes_eq, readUtf8_ascii_append hascii,
    rdropWhile_append_of_none hword, hvalue]
  cases hspaced : l.spaced with
  | true => rfl
  | false =>
    show Line.data (String.ofList (dropSpace (readUtf8 l.value))) = _
    rw [l.dropSpace_value hspaced]
    rfl

end DataLine

/-! ### Lines in the stream -/

/-- The first of several lines. -/
theorem splitLines_line {l : Bytes} (hl : lineFeed ∉ l) (returns : Nat) (bs : Bytes) :
    splitLines (l ++ lineEnd returns ++ bs) =
      ((l ++ lineEnd returns) :: (splitLines bs).1, (splitLines bs).2) := by
  have hfeed {l : Bytes} (hl : lineFeed ∉ l) : splitLines (l ++ lineFeed :: bs) =
      ((l ++ [lineFeed]) :: (splitLines bs).1, (splitLines bs).2) := by
    induction l with
    | nil => exact splitLines_lineFeed bs
    | cons b l ih =>
      obtain ⟨hb, hl⟩ := List.ne_and_not_mem_of_not_mem_cons hl
      rw [List.cons_append, splitLines_cons hb.symm, ih hl]
      rfl
  have hreturns : lineFeed ∉ l ++ List.replicate returns carriageReturn := by
    rw [List.mem_append, List.mem_replicate]
    rintro (h | ⟨-, h⟩)
    · exact hl h
    · exact absurd h (by decide)
  have h := hfeed hreturns
  simpa only [lineEnd, List.append_assoc, List.singleton_append] using h

namespace StreamDecoder

/-- The decoder takes one line after the other. -/
theorem push_line (data : List String) {l : Bytes} (hl : lineFeed ∉ l) (returns : Nat)
    (bs : Bytes) :
    StreamDecoder.push { data } (l ++ lineEnd returns ++ bs) =
      ((takeLine data (.ofBytes (l ++ lineEnd returns))).1.toList ++
          (StreamDecoder.push
            { data := (takeLine data (.ofBytes (l ++ lineEnd returns))).2 } bs).1,
        (StreamDecoder.push
          { data := (takeLine data (.ofBytes (l ++ lineEnd returns))).2 } bs).2) := by
  have hsplit := splitLines_line hl returns bs
  refine Prod.ext ?_ (ext ?_ ?_)
  · rw [push_fst, push_fst, List.nil_append, hsplit, takeLines_cons]
    rfl
  · rw [rest_push, rest_push, List.nil_append, hsplit]
    rfl
  · rw [data_push, data_push, List.nil_append, hsplit, takeLines_cons]
    rfl

end StreamDecoder

end SubtitleCoverage
