import SubtitleCoverage.Jobs.Stream

/-!
# Streams in pieces

The stream of events comes in pieces that may be cut anywhere: within a character, within the word
that begins a line, between a carriage return and its line feed.  The decoder keeps two things from
one piece to the next, the bytes of a line that has not ended and the parts of an event that has not
ended, and these are all that the pieces before have to say.

## Main definitions

* `StreamDecoder.pushAll d pieces` — the events of some pieces, and the decoder after them.

## Main results

* `splitLines_append` — lines found in two parts, the second of which begins where the last line
  of the first one left off.
* `push_append` — **one piece or two make no difference.**
* `pushAll_eq_push_flatten` — **how a stream is cut makes no difference**, to the events, to the
  decoder, and to what is left when the stream ends.
-/

namespace SubtitleCoverage

open Text

/-! ### Lines of two parts -/

theorem splitLines_of_not_mem {bs : Bytes} (h : lineFeed ∉ bs) : splitLines bs = ([], bs) := by
  induction bs with
  | nil => rfl
  | cons b bs ih =>
    have hb : b ≠ lineFeed := fun hb => h (hb ▸ List.mem_cons_self ..)
    rw [splitLines_cons hb, ih fun hmem => h (List.mem_cons_of_mem _ hmem)]

/-- The lines of two parts: those of the first one, and those of what it leaves with the second
one after it. -/
theorem splitLines_append (as bs : Bytes) :
    splitLines (as ++ bs) =
      ((splitLines as).1 ++ (splitLines ((splitLines as).2 ++ bs)).1,
        (splitLines ((splitLines as).2 ++ bs)).2) := by
  induction as with
  | nil => rfl
  | cons a as ih =>
    rw [List.cons_append]
    by_cases h : a = lineFeed
    · rw [h, splitLines_lineFeed, splitLines_lineFeed, ih]
      rfl
    · rw [splitLines_cons h, splitLines_cons h, ih]
      cases hlines : (splitLines as).1 with
      | nil =>
        -- no line ends in the first part, so the byte is still in what it leaves
        rw [List.nil_append, List.nil_append, List.cons_append, splitLines_cons h]
      | cons line lines => rfl

namespace StreamDecoder

theorem takeLines_cons (data : List String) (l : Bytes) (ls : List Bytes) :
    takeLines data (l :: ls) =
      ((takeLine data (.ofBytes l)).1.toList ++ (takeLines (takeLine data (.ofBytes l)).2 ls).1,
        (takeLines (takeLine data (.ofBytes l)).2 ls).2) := rfl

/-- The events of more lines come after those of the first ones, and go on with their parts. -/
theorem takeLines_append (data : List String) (ls ls' : List Bytes) :
    takeLines data (ls ++ ls') =
      ((takeLines data ls).1 ++ (takeLines (takeLines data ls).2 ls').1,
        (takeLines (takeLines data ls).2 ls').2) := by
  induction ls generalizing data with
  | nil => rfl
  | cons l ls ih =>
    rw [List.cons_append, takeLines_cons, takeLines_cons, ih, List.append_assoc]

/-! ### Pieces -/

theorem push_fst (d : StreamDecoder) (piece : Bytes) :
    (d.push piece).1 = (takeLines d.data (splitLines (d.rest ++ piece)).1).1 := rfl

@[simp] theorem rest_push (d : StreamDecoder) (piece : Bytes) :
    (d.push piece).2.rest = (splitLines (d.rest ++ piece)).2 := rfl

@[simp] theorem data_push (d : StreamDecoder) (piece : Bytes) :
    (d.push piece).2.data = (takeLines d.data (splitLines (d.rest ++ piece)).1).2 := rfl

/-- Nothing comes of an empty piece. -/
theorem push_nil (d : StreamDecoder) : d.push [] = ([], d) := by
  have hsplit : splitLines (d.rest ++ []) = ([], d.rest) := by
    rw [List.append_nil, splitLines_of_not_mem d.unended]
  refine Prod.ext ?_ (ext ?_ ?_)
  · rw [push_fst, hsplit]
    rfl
  · rw [rest_push, hsplit]
  · rw [data_push, hsplit]
    rfl

/-- **One piece or two make no difference.** -/
theorem push_append (d : StreamDecoder) (as bs : Bytes) :
    d.push (as ++ bs) =
      ((d.push as).1 ++ ((d.push as).2.push bs).1, ((d.push as).2.push bs).2) := by
  have hsplit := splitLines_append (d.rest ++ as) bs
  rw [List.append_assoc] at hsplit
  refine Prod.ext ?_ (ext ?_ ?_)
  · rw [push_fst, hsplit, takeLines_append]
    rfl
  · rw [rest_push, hsplit]
    rfl
  · rw [data_push, hsplit, takeLines_append]
    rfl

/-- The events of some pieces, one after the other, and the decoder after them. -/
def pushAll (d : StreamDecoder) : List Bytes → List JobEvent × StreamDecoder
  | [] => ([], d)
  | piece :: pieces =>
    ((d.push piece).1 ++ ((d.push piece).2.pushAll pieces).1, ((d.push piece).2.pushAll pieces).2)

theorem pushAll_flatten (pieces : List Bytes) :
    ∀ d : StreamDecoder, d.pushAll pieces = d.push pieces.flatten := by
  induction pieces with
  | nil => intro d; exact (push_nil d).symm
  | cons piece pieces ih => intro d; rw [pushAll, ih, List.flatten_cons, push_append]

/-! ### The end of the stream -/

/-- A line that ends an event leaves no part of it. -/
theorem takeLine_eq_some {data data' : List String} {l : Line} {e : JobEvent}
    (h : takeLine data l = (some e, data')) : data' = [] := by
  cases l with
  | blank => exact (Prod.mk.inj h).2.symm
  | data value => simp [takeLine] at h
  | other => simp [takeLine] at h

/-- Nothing is left of a stream that has ended. -/
theorem finish_snd (d : StreamDecoder) : d.finish.2 = start := by
  unfold finish
  split
  next event data h =>
    cases event with
    | none => rfl
    | some e =>
      have hdata : data = [] := by
        split at h
        · simp at h
        · exact takeLine_eq_some h
      subst hdata
      rfl

/-- **How a stream is cut makes no difference**, whatever its bytes are and however many of the
pieces are empty: to the events, to the decoder, and so to what is left when the stream ends.  After
that the decoder is as it was at the start, and nothing more is left. -/
theorem pushAll_eq_push_flatten (d : StreamDecoder) (pieces : List Bytes) :
    d.pushAll pieces = d.push pieces.flatten ∧
    (d.pushAll pieces).2.finish = (d.push pieces.flatten).2.finish ∧
    d.finish.2 = start ∧ d.finish.2.finish = (none, start) := by
  have h := pushAll_flatten pieces d
  exact ⟨h, by rw [h], finish_snd d, by rw [finish_snd]; rfl⟩

/-- A line feed that comes late, in the middle of an event: `data: x` and a carriage return, then
the line feed and the beginning of the next line. -/
example :
    (start.pushAll [[0x64, 0x61, 0x74, 0x61, 0x3A, 0x20, 0x78, 0x0D], [0x0A, 0x64], []]).2.data =
      ["x"] := by decide +kernel

end StreamDecoder

end SubtitleCoverage
