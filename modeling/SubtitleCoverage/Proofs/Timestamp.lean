import Mathlib.Algebra.Order.Ring.Nat
import Mathlib.Data.List.TakeWhile
import SubtitleCoverage.Timestamp

/-!
# Points in time, written and read

A point in time is written as numbers with separators between them.  Each number is read up to the
separator after it, or up to as many digits as it may have, and gives the number that was written.
Years of more than four digits come with a sign and are read up to the hyphen after them.

## Main definitions

* `paddedDigits width n` — the digits of a number with zeros before them.
* `Stops cs` — no digit comes next.

## Main results

* `toList_decimalPadded` — a number is written by its digits.
* `spanNumber_digits` — digits are read up to their end.
* `readNumber_padded`, `readYear_yearText`, `readFraction_fractionText` — the parts of a text.
* `Timestamp.ofText?_text` — **a point in time is read from its text**.
-/

namespace SubtitleCoverage

namespace Text

/-! ### Digits -/

/-- The digits of a number, with zeros before them up to a width. -/
def paddedDigits (width n : Nat) : List Nat :=
  List.replicate (width - (digits n).length) 0 ++ digits n

theorem natChars_eq (n : Nat) : natChars n = (digits n).map digitChar := rfl

/-- A number is written by its digits. -/
theorem toList_decimalPadded (width n : Nat) :
    (decimalPadded width n).toList = (paddedDigits width n).map digitChar := by
  have hsign : ¬ (n : Int) < 0 := by omega
  rw [decimalPadded]
  simp only [Int.natAbs_natCast, if_neg hsign, List.length_nil, Nat.sub_zero, List.nil_append,
    String.toList_ofList, natChars_eq, List.length_map]
  rw [paddedDigits, List.map_append, List.map_replicate]
  rfl

theorem ofDigits_replicate_append (count : Nat) (ds : List Nat) :
    ofDigits (List.replicate count 0 ++ ds) = ofDigits ds := by
  induction count with
  | zero => rfl
  | succ count ih =>
    rw [List.replicate_succ, List.cons_append]
    exact ih

theorem ofDigits_paddedDigits (width n : Nat) : ofDigits (paddedDigits width n) = n := by
  rw [paddedDigits, ofDigits_replicate_append, ofDigits_digits]

theorem lt_ten_of_mem_paddedDigits {width n d : Nat} (h : d ∈ paddedDigits width n) : d < 10 := by
  rcases List.mem_append.1 h with h | h
  · rw [List.eq_of_mem_replicate h]
    decide
  · exact lt_ten_of_mem_digits h

/-- A number below a power of ten has no more digits than the exponent says. -/
theorem length_digits_le {width : Nat} (hwidth : 1 ≤ width) :
    ∀ {n : Nat}, n < 10 ^ width → (digits n).length ≤ width := by
  induction width, hwidth using Nat.le_induction with
  | base =>
    intro n h
    rw [digits, if_pos (by simpa using h)]
    exact Nat.le_refl 1
  | succ width _ ih =>
    intro n h
    rw [digits]
    split
    · simp
    · have hrest : n / 10 < 10 ^ width := by
        rw [Nat.pow_succ] at h
        omega
      rw [List.length_append, List.length_singleton]
      exact Nat.succ_le_succ (ih hrest)

theorem length_paddedDigits {width n : Nat} (hwidth : 1 ≤ width) (h : n < 10 ^ width) :
    (paddedDigits width n).length = width := by
  have hle := length_digits_le hwidth h
  rw [paddedDigits, List.length_append, List.length_replicate]
  omega

theorem paddedDigits_ne_nil (width n : Nat) : paddedDigits width n ≠ [] :=
  List.append_ne_nil_of_right_ne_nil _ (digits_ne_nil n)

theorem isDigit_digitChar : ∀ d < 10, (digitChar d).isDigit = true := by decide

theorem isBlank_digitChar : ∀ d < 10, isBlank (digitChar d) = false := by decide

theorem digitValue?_digitChar : ∀ d < 10, digitValue? (digitChar d) = some d := by decide

/-- Digits are no blanks. -/
theorem trimStartChars_digits {ds : List Nat} (hds : ∀ d ∈ ds, d < 10) (hne : ds ≠ [])
    (cs : List Char) : trimStartChars (ds.map digitChar ++ cs) = ds.map digitChar ++ cs := by
  obtain ⟨d, ds, rfl⟩ := List.exists_cons_of_ne_nil hne
  have hblank := isBlank_digitChar d (hds d (List.mem_cons_self ..))
  rw [List.map_cons, List.cons_append, trimStartChars, List.dropWhile_cons_of_neg]
  rw [hblank]
  exact Bool.false_ne_true

theorem filterMap_digitValue? {ds : List Nat} (hds : ∀ d ∈ ds, d < 10) :
    (ds.map digitChar).filterMap digitValue? = ds := by
  induction ds with
  | nil => rfl
  | cons d ds ih =>
    obtain ⟨hd, hds⟩ := List.forall_mem_cons.1 hds
    rw [List.map_cons, List.filterMap_cons_some (digitValue?_digitChar d hd), ih hds]

end Text

open Text

namespace Timestamp

/-! ### Numbers -/

/-- No digit comes next. -/
def Stops (cs : List Char) : Prop := ∀ c ∈ cs.head?, c.isDigit = false

theorem takeWhile_of_stops {cs : List Char} (h : Stops cs) : cs.takeWhile Char.isDigit = [] := by
  cases cs with
  | nil => rfl
  | cons c cs =>
    have hc := h c rfl
    rw [List.takeWhile_cons_of_neg]
    rw [hc]
    exact Bool.false_ne_true

theorem Stops.take {cs : List Char} (h : Stops cs) (count : Nat) : Stops (cs.take count) := by
  cases count with
  | zero => exact fun c hc => nomatch hc
  | succ count =>
    cases cs with
    | nil => exact fun c hc => nomatch hc
    | cons c cs => exact h

/-- **Digits are read up to their end**, which is where no more digits may be taken or no digit comes
next. -/
theorem spanNumber_digits {most : Nat} {ds : List Nat} (hds : ∀ d ∈ ds, d < 10) (hne : ds ≠ [])
    (hmost : ds.length ≤ most) {cs : List Char} (hend : ds.length = most ∨ Stops cs) :
    spanNumber most (ds.map digitChar ++ cs) = some (ofDigits ds, ds.length, cs) := by
  have hdigit : ∀ c ∈ ds.map digitChar, c.isDigit = true := by
    intro c hc
    obtain ⟨d, hd, rfl⟩ := List.mem_map.1 hc
    exact isDigit_digitChar d (hds d hd)
  have hrest : (cs.take (most - ds.length)).takeWhile Char.isDigit = [] := by
    rcases hend with hlength | hstops
    · rw [hlength, Nat.sub_self, List.take_zero, List.takeWhile_nil]
    · exact takeWhile_of_stops (hstops.take _)
  have hspan : ((ds.map digitChar ++ cs).take most).takeWhile Char.isDigit = ds.map digitChar := by
    rw [List.take_append, List.take_of_length_le (by rwa [List.length_map]), List.length_map,
      List.takeWhile_append_of_pos hdigit, hrest, List.append_nil]
  have hdrop : (ds.map digitChar ++ cs).drop ds.length = cs :=
    List.drop_left' (List.length_map ..)
  have hne' : ds.map digitChar ≠ [] := fun h => hne (List.map_eq_nil_iff.1 h)
  rw [spanNumber]
  simp only [hspan]
  rw [if_neg hne', filterMap_digitValue? hds, List.length_map, hdrop]

/-- A number that is written with as many digits as may be read. -/
theorem spanNumber_padded {width n : Nat} (hwidth : 1 ≤ width) (h : n < 10 ^ width)
    (cs : List Char) :
    spanNumber width ((decimalPadded width n).toList ++ cs) = some (n, width, cs) := by
  have hlength := length_paddedDigits hwidth h
  rw [toList_decimalPadded, spanNumber_digits (fun _ => lt_ten_of_mem_paddedDigits)
    (paddedDigits_ne_nil width n) hlength.le (.inl hlength), ofDigits_paddedDigits, hlength]

/-- A number behind a separator. -/
theorem readNumber_padded {width n : Nat} (hwidth : 1 ≤ width) (h : n < 10 ^ width)
    (cs : List Char) :
    readNumber width ((decimalPadded width n).toList ++ cs) = some (n, cs) := by
  have htrim : trimStartChars ((decimalPadded width n).toList ++ cs) =
      (decimalPadded width n).toList ++ cs := by
    rw [toList_decimalPadded]
    exact trimStartChars_digits (fun _ => lt_ten_of_mem_paddedDigits) (paddedDigits_ne_nil _ _) cs
  rw [readNumber, htrim, spanNumber_padded hwidth h, Option.map_some]

/-- A separator that is no blank is passed over. -/
theorem skip_cons {separator : Char} (h : isBlank separator = false) (cs : List Char) :
    skip separator (separator :: cs) = some cs := by
  have htrim : trimStartChars (separator :: cs) = separator :: cs := by
    rw [trimStartChars, List.dropWhile_cons_of_neg]
    rw [h]
    exact Bool.false_ne_true
  rw [skip, htrim]
  exact if_pos rfl

/-! ### The parts of a text -/

/-- A number of any length up to a hyphen. -/
theorem spanNumber_year (n : Nat) (cs : List Char) :
    let text := (decimalPadded 4 n).toList ++ '-' :: cs
    ∃ count, spanNumber text.length text = some (n, count, '-' :: cs) := by
  intro text
  have hstops : Stops ('-' :: cs) := by
    intro c hc
    rw [← Option.some.inj hc]
    decide
  have hmost : (paddedDigits 4 n).length ≤ text.length := by
    rw [List.length_append, toList_decimalPadded, List.length_map]
    exact Nat.le_add_right ..
  refine ⟨(paddedDigits 4 n).length, ?_⟩
  have hspan := spanNumber_digits (fun _ => lt_ten_of_mem_paddedDigits) (paddedDigits_ne_nil 4 n)
    hmost (.inr hstops)
  rwa [← toList_decimalPadded, ofDigits_paddedDigits] at hspan

theorem toList_yearText (year : Int) :
    (yearText year).toList =
      (if 0 ≤ year ∧ year ≤ 9999 then [] else if year < 0 then ['-'] else ['+']) ++
        (decimalPadded 4 year.natAbs).toList := by
  unfold yearText
  split
  · next h => rw [Int.natAbs_of_nonneg h.1, List.nil_append]
  · rw [String.toList_append]
    split <;> rfl

theorem readYear_minus (cs : List Char) :
    readYear ('-' :: cs) = (spanNumber cs.length cs).map fun r => (-(r.1 : Int), r.2.2) := rfl

theorem readYear_plus (cs : List Char) :
    readYear ('+' :: cs) = (spanNumber cs.length cs).map fun r => ((r.1 : Int), r.2.2) := rfl

/-- A year that begins with a digit has no sign. -/
theorem readYear_digits {ds : List Nat} (hds : ∀ d ∈ ds, d < 10) (hne : ds ≠ [])
    (cs : List Char) :
    readYear (ds.map digitChar ++ cs) =
      (spanNumber 4 (ds.map digitChar ++ cs)).map fun r => ((r.1 : Int), r.2.2) := by
  have hsign : ∀ d < 10, digitChar d ≠ '-' ∧ digitChar d ≠ '+' := by decide
  rw [readYear, trimStartChars_digits hds hne]
  obtain ⟨d, ds, rfl⟩ := List.exists_cons_of_ne_nil hne
  obtain ⟨hminus, hplus⟩ := hsign d (hds d (List.mem_cons_self ..))
  rw [List.map_cons, List.cons_append]
  split
  · next heq => exact absurd (List.cons.inj heq).1 hminus
  · next heq => exact absurd (List.cons.inj heq).1 hplus
  · rfl

/-- **A year is read up to the hyphen after it**, with its sign if it has one. -/
theorem readYear_yearText (year : Int) (cs : List Char) :
    readYear ((yearText year).toList ++ '-' :: cs) = some (year, '-' :: cs) := by
  obtain ⟨count, hspan⟩ := spanNumber_year year.natAbs cs
  rw [toList_yearText]
  split
  · next h =>
    have hlt : year.natAbs < 10 ^ 4 := by omega
    have hfour := spanNumber_padded (by decide) hlt ('-' :: cs)
    rw [toList_decimalPadded] at hfour ⊢
    rw [List.nil_append, readYear_digits (fun _ => lt_ten_of_mem_paddedDigits)
      (paddedDigits_ne_nil _ _), hfour, Option.map_some, Int.natAbs_of_nonneg h.1]
  · split
    · next hneg =>
      have hyear : -(year.natAbs : Int) = year := by omega
      rw [List.append_assoc, List.singleton_append, readYear_minus, hspan, Option.map_some, hyear]
    · next hout hneg =>
      have hyear : (year.natAbs : Int) = year := by omega
      rw [List.append_assoc, List.singleton_append, readYear_plus, hspan, Option.map_some, hyear]

theorem readFraction_point (cs : List Char) :
    readFraction ('.' :: cs) = (spanNumber 9 cs).map fun r =>
      (r.1 * 10 ^ (9 - r.2.1), r.2.2.dropWhile Char.isDigit) := rfl

/-- The digits of a fraction stand for as many nanoseconds as their place says. -/
theorem readFraction_padded {width n : Nat} (hwidth : 1 ≤ width) (hnine : width ≤ 9)
    (h : n < 10 ^ width) {cs : List Char} (hstops : Stops cs) :
    readFraction ('.' :: ((decimalPadded width n).toList ++ cs)) =
      some (n * 10 ^ (9 - width), cs) := by
  have hlength := length_paddedDigits hwidth h
  have hspan := spanNumber_digits (fun _ => lt_ten_of_mem_paddedDigits)
    (paddedDigits_ne_nil width n) (hlength.le.trans hnine) (.inr hstops)
  rw [← toList_decimalPadded, ofDigits_paddedDigits, hlength] at hspan
  have hrest : cs.dropWhile Char.isDigit = cs := by
    cases cs with
    | nil => rfl
    | cons c cs =>
      have hc := hstops c rfl
      rw [List.dropWhile_cons_of_neg]
      rw [hc]
      exact Bool.false_ne_true
  rw [readFraction_point, hspan, Option.map_some, hrest]

/-- **A fraction is read up to the mark of the offset.** -/
theorem readFraction_fractionText {nano : Nat} (h : nano < 1000000000) (cs : List Char) :
    readFraction ((fractionText nano).toList ++ 'Z' :: cs) = some (nano, 'Z' :: cs) := by
  have hstops : Stops ('Z' :: cs) := by
    intro c hc
    rw [← Option.some.inj hc]
    decide
  have hpoint (width n : Nat) : ("." ++ decimalPadded width n).toList ++ 'Z' :: cs =
      '.' :: ((decimalPadded width n).toList ++ 'Z' :: cs) := by
    rw [String.toList_append]
    rfl
  unfold fractionText
  split
  · next hzero =>
    rw [hzero]
    rfl
  · split
    · next hmilli =>
      rw [hpoint, readFraction_padded (by decide) (by decide) (by omega) hstops]
      simp only [Option.some.injEq, Prod.mk.injEq, and_true]
      omega
    · split
      · next hmicro =>
        rw [hpoint, readFraction_padded (by decide) (by decide) (by omega) hstops]
        simp only [Option.some.injEq, Prod.mk.injEq, and_true]
        omega
      · rw [hpoint, readFraction_padded (by decide) (by decide) (by omega) hstops, Nat.sub_self,
          Nat.pow_zero, Nat.mul_one]

/-! ### The text -/

/-- The clock shows a valid point in time with two digits each. -/
theorem bounds (t : Timestamp) :
    t.date.month < 10 ^ 2 ∧ t.date.day < 10 ^ 2 ∧ t.hour < 10 ^ 2 ∧ t.minute < 10 ^ 2 ∧
      t.second < 10 ^ 2 ∧ t.nano < 1000000000 ∧ t.hour < 24 ∧ t.minute < 60 := by
  have hvalid := t.valid
  simp only [DateTime.isValid, Date.isValid, Bool.and_eq_true, decide_eq_true_eq] at hvalid
  have hdays : daysInMonth t.date.year t.date.month ≤ 31 := by
    unfold daysInMonth
    split_ifs <;> decide
  omega

/-- What stands in a text of a point in time. -/
theorem toList_text (t : Timestamp) :
    t.text.toList = (yearText t.date.year).toList ++ '-' :: ((decimalPadded 2 t.date.month).toList ++
      '-' :: ((decimalPadded 2 t.date.day).toList ++ 'T' :: ((decimalPadded 2 t.hour).toList ++
        ':' :: ((decimalPadded 2 t.minute).toList ++ ':' :: ((decimalPadded 2 t.second).toList ++
          ((fractionText t.nano).toList ++ ['Z'])))))) := by
  simp [text, String.toList_append]

theorem readDateTime_text (t : Timestamp) :
    readDateTime t.text.toList = some (t.toDateTime, 0, []) := by
  obtain ⟨hmonth, hday, hhour, hminute, hsecond, hnano, -, -⟩ := t.bounds
  have hhyphen : isBlank '-' = false := by decide
  have hcolon : isBlank ':' = false := by decide
  have hbetween : ∀ cs, skipBetween ('T' :: cs) = some cs := fun _ => rfl
  have hoffset : readOffset (trimStartChars ['Z']) = some (0, []) := by decide
  rw [toList_text, readDateTime]
  simp only [readYear_yearText, skip_cons hhyphen, readNumber_padded (by decide) hmonth,
    readNumber_padded (by decide) hday, hbetween, readNumber_padded (by decide) hhour,
    skip_cons hcolon, readNumber_padded (by decide) hminute, readNumber_padded (by decide) hsecond,
    readFraction_fractionText hnano, hoffset, Option.bind_eq_bind, Option.bind_some]
  rfl

/-- Nothing is moved by no offset. -/
theorem shift_zero (t : Timestamp) : shift t.toDateTime (-0) = t.toDateTime := by
  obtain ⟨-, -, -, -, -, -, hhour, hminute⟩ := t.bounds
  have hlow : ¬ 60 * (t.hour : Int) + t.minute + -0 < 0 := by omega
  have hhigh : 60 * (t.hour : Int) + t.minute + -0 < 1440 := by omega
  have hminutes : ((60 * (t.hour : Int) + t.minute + -0) % 1440).toNat = 60 * t.hour + t.minute := by
    omega
  have hhours : (60 * t.hour + t.minute) / 60 = t.hour := by omega
  have hrest : (60 * t.hour + t.minute) % 60 = t.minute := by omega
  simp only [shift, if_neg hlow, if_pos hhigh, hminutes, hhours, hrest]

/-- **A point in time is read from its text**, whatever its year, and to the nanosecond. -/
theorem ofText?_text (t : Timestamp) : ofText? t.text = some t := by
  have hread := readDateTime_text t
  rw [ofText?, hread]
  show (if t.toDateTime.isValid = true ∧ trimStartChars [] = [] then
    ofDateTime? (shift t.toDateTime (-0)) else none) = some t
  rw [if_pos ⟨t.valid, rfl⟩, shift_zero, ofDateTime?, dif_pos t.valid]

end Timestamp

end SubtitleCoverage
