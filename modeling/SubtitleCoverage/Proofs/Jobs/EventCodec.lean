import SubtitleCoverage.Jobs.Event
import SubtitleCoverage.Proofs.Json.Values
import SubtitleCoverage.Proofs.Uuid

/-!
# Events of batch jobs, written and read

An event is written as an object of names, numbers of 64 bits and a universal name, all of them in
ASCII.  Reading such an object takes out the member that tells the kind of the event and finds each
of the other members once.

## Main results

* `JobEvent.ofJson?_toJson` — an event is read from its JSON value.
* `JobEvent.portable_toJson` — its lexical elements are scanned as they are, and are ASCII.
* `JobEvent.read_of_spells` — **an event is read from every spelling of its JSON value**.
-/

namespace SubtitleCoverage

open Json Text

namespace Json

/-- A lexical element that scanning gives back as it is, and that is ASCII. -/
def Token.Portable (t : Token) : Prop :=
  t.Exact ∧ ∀ s, t = .str s → ∀ b ∈ utf8Bytes s, b < 0x80

end Json

theorem JobId.ofJson?_toJson (i : JobId) : JobId.ofJson? i.toJson = some i := by
  rw [JobId.ofJson?, JobId.toJson, Uuid.ofJson?, Uuid.toJson, asText?, Option.bind_some,
    Uuid.ofText?_text, Option.map_some]

/-! ### Reading an event -/

namespace JobEvent

/-- The members of a report next to its kind. -/
def progressMembers (r : ProgressReport) : List (String × Json) :=
  [("jobId", r.job.toJson), ("sequence", ofOption ofUInt64 r.sequence),
    ("current", ofUInt64 r.current), ("total", ofUInt64 r.total),
    ("completed", ofUInt64 r.completed), ("failed", ofUInt64 r.failed)]

/-- The members of a final account next to its kind. -/
def finishedMembers (r : FinalReport) : List (String × Json) :=
  [("jobId", r.job.toJson), ("succeeded", ofUInt64 r.succeeded), ("failed", ofUInt64 r.failed),
    ("skipped", ofUInt64 r.skipped)]

theorem toJson_progress (r : ProgressReport) :
    toJson (.progress r) = .obj (("type", .str "progress") :: progressMembers r) := rfl

theorem toJson_finished (r : FinalReport) :
    toJson (.finished r) = .obj (("type", .str "finished") :: finishedMembers r) := rfl

theorem splitKind?_progress (r : ProgressReport) :
    splitKind? (toJson (.progress r)) = some ("progress", .obj (progressMembers r)) := rfl

theorem splitKind?_finished (r : FinalReport) :
    splitKind? (toJson (.finished r)) = some ("finished", .obj (finishedMembers r)) := rfl

theorem ofJson?_progressMembers (r : ProgressReport) :
    ProgressReport.ofJson? (.obj (progressMembers r)) = some r := by
  have hsequence : asOption? asUInt64? (ofOption ofUInt64 r.sequence) = some r.sequence :=
    asOption?_ofOption asUInt64?_ofUInt64 (fun _ h => nomatch h) _
  simp [ProgressReport.ofJson?, progressMembers, fields?, ProgressReport.fieldNames,
    Fields.required, Fields.withDefault, memberSlot, JobId.ofJson?_toJson, asUInt64?_ofUInt64,
    hsequence]

theorem ofJson?_finishedMembers (r : FinalReport) :
    FinalReport.ofJson? (.obj (finishedMembers r)) = some r := by
  simp [FinalReport.ofJson?, finishedMembers, fields?, FinalReport.fieldNames, Fields.required,
    Fields.withDefault, memberSlot, JobId.ofJson?_toJson, asUInt64?_ofUInt64]

/-- An event is one object that holds no other. -/
theorem fits_toJson (e : JobEvent) : e.toJson.fits 127 = true := by
  rcases e with ⟨job, _ | n, current, total, completed, failed⟩ | r
  · rfl
  · rfl
  · rfl

/-- An event is read from its JSON value. -/
theorem ofJson?_toJson (e : JobEvent) : ofJson? e.toJson = some e := by
  have hfits : guard (e.toJson.fits (127 - 0)) = some () := by rw [fits_toJson]; rfl
  cases e with
  | progress r =>
    simp only [ofJson?, hfits, splitKind?_progress, Option.bind_eq_bind, Option.bind_some,
      ofJson?_progressMembers, Option.map_some]
  | finished r =>
    simp only [ofJson?, hfits, splitKind?_finished, Option.bind_eq_bind, Option.bind_some,
      ofJson?_finishedMembers, Option.map_some]

/-! ### Spellings of an event -/

theorem portable_str {s : String} (h : ∀ c ∈ s.toList, c.toNat < 0x80) : Token.Portable (.str s) :=
  ⟨trivial, fun _ hs => Token.str.inj hs ▸ utf8Bytes_lt h⟩

theorem portable_tokens_str {s : String} (h : ∀ c ∈ s.toList, c.toNat < 0x80) :
    ∀ t ∈ tokens (.str s), t.Portable :=
  fun _ ht => List.mem_singleton.1 ht ▸ portable_str h

theorem portable_job (i : JobId) : ∀ t ∈ tokens i.toJson, t.Portable := by
  refine portable_tokens_str fun c hc => ?_
  rcases Uuid.mem_text hc with ⟨d, hd, rfl⟩ | rfl
  · have hall : ∀ d < 16, (hexChar d).toNat < 0x80 := by decide
    exact hall d hd
  · decide

theorem portable_ofUInt64 (n : UInt64) : ∀ t ∈ tokens (ofUInt64 n), t.Portable := by
  intro t ht
  have hlt := n.toNat_lt
  rw [List.mem_singleton.1 ht]
  exact ⟨⟨by omega, by omega⟩, fun _ hs => nomatch hs⟩

theorem portable_ofOption (o : Option UInt64) : ∀ t ∈ tokens (ofOption ofUInt64 o), t.Portable := by
  cases o with
  | none =>
    intro t ht
    rw [List.mem_singleton.1 ht]
    exact ⟨trivial, fun _ hs => nomatch hs⟩
  | some n => exact portable_ofUInt64 n

/-- The lexical elements of an event are scanned as they are, and are ASCII. -/
theorem portable_toJson (e : JobEvent) : ∀ t ∈ tokens e.toJson, t.Portable := by
  have hmarks : ∀ t ∈ [Token.openBrace, .closeBrace, .colon, .comma], t.Portable := by
    simp [Token.Portable, Token.Exact]
  have hword : ∀ s ∈ ["type", "progress", "finished"] ++ ProgressReport.fieldNames ++
      FinalReport.fieldNames, ∀ c ∈ s.toList, c.toNat < 0x80 := by
    simp [ProgressReport.fieldNames, FinalReport.fieldNames]
  cases e with
  | progress r =>
    rw [toJson_progress]
    refine forall_mem_tokens_obj hmarks fun m hm => ⟨portable_str (hword m.1 ?_), ?_⟩
    · revert m
      simp [progressMembers, ProgressReport.fieldNames]
    · simp only [progressMembers, List.mem_cons, List.not_mem_nil, or_false] at hm
      rcases hm with rfl | rfl | rfl | rfl | rfl | rfl | rfl
      · exact portable_tokens_str (hword _ (by simp))
      · exact portable_job r.job
      · exact portable_ofOption r.sequence
      · exact portable_ofUInt64 r.current
      · exact portable_ofUInt64 r.total
      · exact portable_ofUInt64 r.completed
      · exact portable_ofUInt64 r.failed
  | finished r =>
    rw [toJson_finished]
    refine forall_mem_tokens_obj hmarks fun m hm => ⟨portable_str (hword m.1 ?_), ?_⟩
    · revert m
      simp [finishedMembers, FinalReport.fieldNames]
    · simp only [finishedMembers, List.mem_cons, List.not_mem_nil, or_false] at hm
      rcases hm with rfl | rfl | rfl | rfl | rfl
      · exact portable_tokens_str (hword _ (by simp))
      · exact portable_job r.job
      · exact portable_ofUInt64 r.succeeded
      · exact portable_ofUInt64 r.failed
      · exact portable_ofUInt64 r.skipped

theorem ascii_of_isSpace {b : UInt8} (hb : isSpace b = true) : b < 0x80 := by
  rcases isSpace_iff.1 hb with rfl | rfl | rfl | rfl
  · decide
  · decide
  · decide
  · decide

/-- A spelling of portable lexical elements is ASCII. -/
theorem ascii_of_spells {ts : List Token} {bs : Bytes} (h : Spells ts bs)
    (hts : ∀ t ∈ ts, t.Portable) : ∀ b ∈ bs, b < 0x80 := by
  induction h with
  | nil => exact fun b hb => nomatch hb
  | blank hb h ih =>
    exact List.forall_mem_cons.2 ⟨ascii_of_isSpace hb, ih hts⟩
  | token t h ih =>
    obtain ⟨ht, hts⟩ := List.forall_mem_cons.1 hts
    exact List.forall_mem_append.2 ⟨fun b hb => (printed_bytes hb).2 ht.2, ih hts⟩

/-- **An event is read from every spelling of its JSON value.** -/
theorem read_of_spells {e : JobEvent} {bs : Bytes} (h : Spells (tokens e.toJson) bs) :
    (readText (utf8Text bs)).bind ofJson? = some e := by
  have hascii := ascii_of_spells h (portable_toJson e)
  rw [readText, utf8Text, readUtf8_ascii hascii, utf8Bytes_asciiText hascii,
    Json.read_of_spells (fun t ht => (portable_toJson e t ht).1) h, Option.bind_some, ofJson?_toJson]

end JobEvent

end SubtitleCoverage
