import SubtitleCoverage.Proofs.Jobs.EventCodec
import SubtitleCoverage.Proofs.Jobs.Lines

/-!
# Events in the stream

An event is written into the stream as a frame: lines of data, whose values joined by line feeds
spell the JSON value of the event, and a blank line.  Between and inside frames there may be lines
that are passed over, and between them frames that hold something else.  None of it disturbs the
events, because a blank line leaves the decoder as it was at the start.

## Main definitions

* `StreamFrame` — some lines closed by a blank line, with the payload of its lines of data.
* `StreamItem` — what a stream is made of: the frame of an event, a frame that holds no event, or a
  line that is passed over.
* `JobEvent.frameBytes`, `JobEvent.item` — the frame that has an event in one line.

## Main results

* `StreamDecoder.push_frame` — a frame is decoded as its payload, and leaves nothing behind.
* `StreamDecoder.push_blank` — two line feeds bring any decoder back to the start.
* `StreamDecoder.decodes_stream` — **the events of a stream are decoded, and a blank line
  resynchronises the decoder.**
-/

namespace SubtitleCoverage

open Text

/-! ### Frames -/

/-- A line of a frame before the blank one. -/
inductive FrameLine where
  | data (l : DataLine)
  | passed (l : PassedLine)

namespace FrameLine

/-- The bytes of a line. -/
def bytes : FrameLine → Bytes
  | .data l => l.bytes
  | .passed l => l.bytes

/-- The value of a line of data. -/
def value? : FrameLine → Option Bytes
  | .data l => some l.value
  | .passed _ => none

end FrameLine

/-- A part of the stream that ends with a blank line. -/
structure StreamFrame where
  lines : List FrameLine
  /-- The carriage returns of the blank line. -/
  returns : Nat

namespace StreamFrame

/-- The bytes of a frame. -/
def bytes (f : StreamFrame) : Bytes := f.lines.flatMap FrameLine.bytes ++ lineEnd f.returns

/-- The values of the lines of data, with line feeds between them. -/
def payload (f : StreamFrame) : Bytes :=
  [lineFeed].intercalate (f.lines.filterMap FrameLine.value?)

/-- The event that the payload is, if it is one. -/
def event? (f : StreamFrame) : Option JobEvent :=
  (Json.readText (utf8Text f.payload)).bind JobEvent.ofJson?

/-- A frame whose payload spells an event holds that event. -/
theorem event?_of_spells {f : StreamFrame} {e : JobEvent}
    (h : Json.Spells (Json.tokens e.toJson) f.payload) : f.event? = some e :=
  JobEvent.read_of_spells h

end StreamFrame

/-! ### Items of a stream -/

/-- What a stream is made of. -/
inductive StreamItem where
  /-- The frame of an event.  Its payload is the JSON value of the event, in which blanks may stand
  around the lexical elements, line feeds among them: there the payload goes on in another line. -/
  | event (e : JobEvent) (f : StreamFrame) (h : Json.Spells (Json.tokens e.toJson) f.payload)
  /-- A frame that holds no event. -/
  | garbage (f : StreamFrame) (h : f.event? = none)
  | passed (l : PassedLine)

namespace StreamItem

/-- The bytes of an item. -/
def bytes : StreamItem → Bytes
  | .event _ f _ => f.bytes
  | .garbage f _ => f.bytes
  | .passed l => l.bytes

/-- The event of an item. -/
def event? : StreamItem → Option JobEvent
  | .event e _ _ => some e
  | .garbage .. | .passed _ => none

end StreamItem

/-! ### The shortest frame of an event -/

namespace JobEvent

/-- An event is written without control characters. -/
theorem printed_render (e : JobEvent) : ∀ b ∈ Json.render e.toJson, 0x20 ≤ b := by
  intro b hb
  obtain ⟨t, -, hb⟩ := List.mem_flatMap.1 hb
  exact (Json.printed_bytes hb).1

/-- The line of data that has the whole event. -/
def line (returns : Nat) (e : JobEvent) : DataLine where
  spaced := true
  value := Json.render e.toJson
  returns := returns
  unbroken := fun h => absurd (e.printed_render _ h) (by decide)
  trimmed := fun h => absurd (e.printed_render _ (List.mem_of_getLast? h)) (by decide)
  separate := fun h => nomatch h

/-- The frame that has the event in one line. -/
def frame (returns : Nat) (e : JobEvent) : StreamFrame := ⟨[.data (e.line returns)], returns⟩

/-- The bytes of an event in one line and of the blank line after it. -/
def frameBytes (returns : Nat) (e : JobEvent) : Bytes :=
  dataWord ++ space :: Json.render e.toJson ++ lineEnd returns ++ lineEnd returns

/-- The event in one line, as an item of a stream. -/
def item (returns : Nat) (e : JobEvent) : StreamItem :=
  .event e (e.frame returns) (by
    show Json.Spells _ ([lineFeed].intercalate [Json.render e.toJson])
    rw [List.intercalate_singleton]
    exact Json.spells_flatMap _)

theorem bytes_item (returns : Nat) (e : JobEvent) :
    (e.item returns).bytes = e.frameBytes returns := by
  show [FrameLine.data (e.line returns)].flatMap FrameLine.bytes ++ lineEnd returns = _
  rw [List.flatMap_singleton]
  rfl

end JobEvent

/-! ### Decoding a frame -/

namespace StreamDecoder

theorem push_data (data : List String) (l : DataLine) (bs : Bytes) :
    StreamDecoder.push { data } (l.bytes ++ bs) =
      StreamDecoder.push { data := utf8Text l.value :: data } bs := by
  have hline := l.ofBytes_bytes
  have hfeed : lineFeed ∉ dataWord ++ (if l.spaced then [space] else []) ++ l.value := by
    rw [List.mem_append]
    rintro (h | h)
    · revert h
      cases l.spaced <;> decide
    · exact l.unbroken h
  rw [DataLine.bytes] at hline ⊢
  rw [push_line data hfeed, hline]
  rfl

theorem push_passed (data : List String) (l : PassedLine) (bs : Bytes) :
    StreamDecoder.push { data } (l.bytes ++ bs) = StreamDecoder.push { data } bs := by
  have hline := l.ofBytes_bytes
  have hfeed : lineFeed ∉ l.word.bytes ++ l.text := by
    rw [List.mem_append]
    rintro (h | h)
    · revert h
      cases l.word <;> decide
    · exact l.unbroken h
  rw [PassedLine.bytes] at hline ⊢
  rw [push_line data hfeed, hline]
  rfl

/-- The lines of a frame leave the texts of their values. -/
theorem push_lines (ls : List FrameLine) : ∀ (data : List String) (bs : Bytes),
    StreamDecoder.push { data } (ls.flatMap FrameLine.bytes ++ bs) =
      StreamDecoder.push
        { data := ((ls.filterMap FrameLine.value?).map utf8Text).reverse ++ data } bs := by
  induction ls with
  | nil => exact fun data bs => rfl
  | cons l ls ih =>
    intro data bs
    rw [List.flatMap_cons, List.append_assoc]
    cases l with
    | data l =>
      have hvalue : (FrameLine.data l).value? = some l.value := rfl
      rw [FrameLine.bytes, push_data, ih, List.filterMap_cons_some hvalue, List.map_cons,
        List.reverse_cons, List.append_assoc]
      rfl
    | passed l =>
      rw [FrameLine.bytes, push_passed, ih, List.filterMap_cons_none rfl]

/-- A blank line ends an event. -/
theorem push_lineEnd (data : List String) (returns : Nat) (bs : Bytes) :
    StreamDecoder.push { data } (lineEnd returns ++ bs) =
      ((eventOf? data.reverse).toList ++ (start.push bs).1, (start.push bs).2) := by
  have h := push_line data (l := []) List.not_mem_nil returns bs
  rw [List.nil_append, ofBytes_lineEnd] at h
  exact h

/-- The texts of some values, joined by line feeds, are the text of the values joined. -/
theorem joinWith_map_utf8Text : ∀ vs : List Bytes,
    joinWith "\n" (vs.map utf8Text) = utf8Text ([lineFeed].intercalate vs)
  | [] => rfl
  | [v] => by rw [List.intercalate_singleton]; rfl
  | v :: w :: vs => by
    have hrest := joinWith_map_utf8Text (w :: vs)
    have hfeed : lineFeed < 0x80 := by decide
    have hnewline : String.ofList [asciiChar lineFeed] = "\n" := by decide
    have hread : readUtf8 ([lineFeed].intercalate (v :: w :: vs)) =
        readUtf8 v ++ [asciiChar lineFeed] ++ readUtf8 ([lineFeed].intercalate (w :: vs)) := by
      rw [List.intercalate_cons_cons, List.append_assoc, List.singleton_append,
        readUtf8_append_cons _ _ hfeed, List.append_assoc, List.singleton_append]
    rw [utf8Text, hread, String.ofList_append, String.ofList_append, hnewline, List.map_cons,
      List.map_cons, joinWith, ← List.map_cons, hrest]
    rfl

/-- The event of some lines of data is that of their values joined by line feeds. -/
theorem eventOf?_map_utf8Text (vs : List Bytes) :
    eventOf? (vs.map utf8Text) =
      (Json.readText (utf8Text ([lineFeed].intercalate vs))).bind JobEvent.ofJson? := by
  cases vs with
  | nil =>
    -- no value at all is no JSON text either
    have hbytes : utf8Bytes (utf8Text []) = [] := utf8Bytes_ofList []
    have hread : Json.read [] = none := by
      rw [Json.read, Json.scan, Json.scanFrom]
      rfl
    rw [List.intercalate_nil, Json.readText, hbytes, hread]
    rfl
  | cons v vs => rw [← joinWith_map_utf8Text]; rfl

/-- **A frame is decoded as its payload, and leaves nothing behind.** -/
theorem push_frame (f : StreamFrame) (bs : Bytes) :
    start.push (f.bytes ++ bs) = (f.event?.toList ++ (start.push bs).1, (start.push bs).2) := by
  rw [StreamFrame.bytes, List.append_assoc, start, push_lines, push_lineEnd, List.append_nil,
    List.reverse_reverse, eventOf?_map_utf8Text]
  rfl

theorem push_item (i : StreamItem) (bs : Bytes) :
    start.push (i.bytes ++ bs) = (i.event?.toList ++ (start.push bs).1, (start.push bs).2) := by
  cases i with
  | event e f h => rw [StreamItem.bytes, push_frame, f.event?_of_spells h]; rfl
  | garbage f h => rw [StreamItem.bytes, push_frame, h]; rfl
  | passed l => exact push_passed [] l bs

theorem push_items (items : List StreamItem) :
    start.push (items.flatMap StreamItem.bytes) = (items.filterMap StreamItem.event?, start) := by
  induction items with
  | nil => exact push_nil start
  | cons i items ih =>
    rw [List.flatMap_cons, push_item, ih, List.filterMap_cons]
    cases i.event? <;> rfl

/-! ### Resynchronisation -/

/-- Nothing is left of a line after its line feed. -/
theorem rest_push_lineFeed (d : StreamDecoder) (h : Bytes) :
    (d.push (h ++ [lineFeed])).2.rest = [] := by
  have hline := splitLines_line (lineFeed_not_mem_rest (d.rest ++ h)) 0 []
  rw [List.append_nil] at hline
  rw [rest_push, ← List.append_assoc, splitLines_append]
  exact congrArg Prod.snd hline

/-- **Two line feeds bring any decoder back to the start**: the first one ends the line that has
not ended, and the second one is a blank line. -/
theorem push_blank (d : StreamDecoder) (h : Bytes) :
    (d.push (h ++ [lineFeed, lineFeed])).2 = start := by
  have hfirst : (d.push (h ++ [lineFeed])).2 = { data := (d.push (h ++ [lineFeed])).2.data } :=
    ext (rest_push_lineFeed d h) rfl
  have hsecond := push_lineEnd (d.push (h ++ [lineFeed])).2.data 0 []
  rw [push_nil, List.append_nil] at hsecond
  rw [show [lineFeed, lineFeed] = [lineFeed] ++ [lineFeed] from rfl, ← List.append_assoc,
    push_append, hfirst]
  exact congrArg Prod.snd hsecond

/-! ### The stream -/

/-- Events written one after the other, each in one line. -/
theorem push_frameBytes (returns : Nat) (es : List JobEvent) :
    start.push (es.flatMap (JobEvent.frameBytes returns)) = (es, start) := by
  have h := push_items (es.map (JobEvent.item returns))
  have hevents : (StreamItem.event? ∘ JobEvent.item returns) = some := rfl
  rw [List.flatMap_map, List.filterMap_map, hevents, List.filterMap_some] at h
  simpa only [JobEvent.bytes_item] using h

/-- **The events of a stream are decoded, each once and in order, and a blank line resynchronises
the decoder**: whatever came before two line feeds, and however the decoder stood then, what comes
after them is decoded as from the start. -/
theorem decodes_stream :
    (∀ items : List StreamItem,
      start.push (items.flatMap StreamItem.bytes) = (items.filterMap StreamItem.event?, start)) ∧
    (∀ (returns : Nat) (es : List JobEvent),
      start.push (es.flatMap (JobEvent.frameBytes returns)) = (es, start)) ∧
    ∀ (d : StreamDecoder) (h s : Bytes),
      d.push (h ++ [lineFeed, lineFeed] ++ s) =
        ((d.push (h ++ [lineFeed, lineFeed])).1 ++ (start.push s).1, (start.push s).2) := by
  refine ⟨push_items, push_frameBytes, fun d h s => ?_⟩
  rw [push_append, push_blank]

/-- A heartbeat, a frame that is no event, and an event behind its number in the stream. -/
example :
    (start.push (utf8Bytes ": ping\n\ndata: no event\n\nid: 7\r\n" ++
      JobEvent.frameBytes 1 (.finished { job := .ofNat 7, succeeded := 3 }))).1 =
      [.finished { job := .ofNat 7, succeeded := 3 }] := by decide +kernel

end StreamDecoder

end SubtitleCoverage
