import Mathlib
import SubtitleCoverage.Http.Client
import SubtitleCoverage.Listing.Wire
import SubtitleCoverage.Proofs.Jobs.EventCodec
import SubtitleCoverage.Proofs.Timestamp

/-!
# Records on the wire

Every record that crosses the wire is written faithfully: whatever texts, numbers, maps and sets it
holds, it is read from the text that is written of it, and no other record has that text.  Records
with members that are left out are read back as well, since a member that is not there stands for
what was left out.

## Main definitions

* `RoundTrips encode decode` — values survive being written as JSON texts and read.
* `Http.BatchWish`, `Http.statusWish?`, `Http.Wish.asks` — what a server reads in the body of a
  request.

## Main results

* `MediaUnit.faithful` and the same for the other records.
* `records_survive` — **every record is found again in its text, and different records have different
  texts**; so is what the body of a request asks for.
-/

namespace SubtitleCoverage

open Json Text

/-! ### Names and numbers -/

theorem MediaUnitId.faithful : Faithful MediaUnitId.toJson MediaUnitId.ofJson? :=
  Faithful.int64.wrap fun _ => rfl

theorem ProfileId.faithful : Faithful ProfileId.toJson ProfileId.ofJson? :=
  Faithful.int64.wrap fun _ => rfl

theorem Uuid.faithful : Faithful Uuid.toJson Uuid.ofJson? := .spelled Uuid.ofText?_text

theorem JobId.faithful : Faithful JobId.toJson JobId.ofJson? := Uuid.faithful.wrap fun _ => rfl

theorem Timestamp.faithful : Faithful Timestamp.toJson Timestamp.ofJson? :=
  .spelled Timestamp.ofText?_text

theorem SubtitleFormat.faithful : Faithful SubtitleFormat.toJson SubtitleFormat.ofJson? :=
  .named fun f => by cases f <;> rfl

theorem MediaKind.faithful : Faithful MediaKind.toJson MediaKind.ofJson? :=
  .named fun k => by cases k <;> rfl

theorem MediaStatus.faithful : Faithful MediaStatus.toJson MediaStatus.ofJson? :=
  .named fun s => by cases s <;> rfl

theorem ForcedSubtitles.faithful : Faithful ForcedSubtitles.toJson ForcedSubtitles.ofJson? :=
  .named fun f => by cases f <;> rfl

theorem SortKey.faithful : Faithful SortKey.toJson SortKey.ofJson? :=
  .named fun k => by cases k <;> rfl

/-! ### Media records -/

theorem MediaUnit.faithful : Faithful MediaUnit.toJson MediaUnit.ofJson? where
  isExact u := by
    have hnumber := Faithful.int32.isExact_ofOption
    refine isExact_obj ?_
    simp only [List.forall_mem_cons]
    exact ⟨MediaUnitId.faithful.isExact _, isExact_str _, MediaKind.faithful.isExact _,
      Faithful.text.isExact_ofOption _, hnumber _, hnumber _, isExact_bool _,
      SubtitleFormat.faithful.map.isExact _, Faithful.set.isExact _,
      MediaStatus.faithful.isExact _, Timestamp.faithful.isExact_ofOption _, nofun⟩
  decode_encode u := by
    have htext := (Faithful.text.option fun _ h => nomatch h).decode_encode u.path
    have hnumber := (Faithful.int32.option fun _ h => nomatch h).decode_encode
    have htime := (Timestamp.faithful.option fun _ h => nomatch h).decode_encode u.addedAt
    have hsubtitles := SubtitleFormat.faithful.map.decode_encode u.subtitles
    rw [ofJson?, toJson, fields?_obj (by simp)]
    simp [Fields.required, Fields.withDefault, memberSlot, asText?, asBool?,
      MediaUnitId.faithful.decode_encode, MediaKind.faithful.decode_encode, htext, hnumber,
      hsubtitles, Faithful.set.decode_encode, MediaStatus.faithful.decode_encode, htime]

theorem Sidecar.faithful : Faithful Sidecar.toJson Sidecar.ofJson? where
  isExact s := by
    refine isExact_obj ?_
    simp only [List.forall_mem_cons]
    exact ⟨isExact_str _, isExact_str _, isExact_str _,
      MediaUnitId.faithful.isExact_ofOption _, nofun⟩
  decode_encode s := by
    have hunit := (MediaUnitId.faithful.option fun _ h => nomatch h).decode_encode s.mediaUnitId
    rw [ofJson?, toJson, fields?_obj (by simp)]
    simp [Fields.withDefault, memberSlot, asText?, hunit]

theorem LanguageProfile.faithful : Faithful LanguageProfile.toJson LanguageProfile.ofJson? where
  isExact p := by
    have htexts := Faithful.text.list.isExact
    refine isExact_obj ?_
    simp only [List.forall_mem_cons]
    exact ⟨ProfileId.faithful.isExact _, isExact_str _, isExact_str _, htexts _, isExact_str _,
      htexts _, ForcedSubtitles.faithful.isExact _, isExact_bool _, nofun⟩
  decode_encode p := by
    have htexts := Faithful.text.list.decode_encode
    rw [ofJson?, toJson, fields?_obj (by simp)]
    simp [Fields.required, Fields.withDefault, memberSlot, asText?, asBool?,
      ProfileId.faithful.decode_encode, htexts, ForcedSubtitles.faithful.decode_encode]

/-! ### Events -/

theorem JobEvent.faithful : Faithful JobEvent.toJson JobEvent.ofJson? :=
  ⟨fun e t ht => (portable_toJson e t ht).1, ofJson?_toJson⟩

/-! ### Queries -/

theorem Filter.faithful : Faithful Filter.toJson Filter.ofJson? where
  isExact f := by
    have hvalue : f.valueToJson.IsExact := by
      cases f with
      | hasFile b => exact isExact_bool b
      | status s => exact MediaStatus.faithful.isExact s
      | kind k => exact MediaKind.faithful.isExact k
      | season n => exact Faithful.int32.isExact n
      | audioLanguage l => exact isExact_str l
    refine isExact_obj ?_
    simp only [List.forall_mem_cons]
    exact ⟨isExact_str _, hvalue, nofun⟩
  decode_encode f := by
    -- the field is named before its value, so a choice is read as it comes
    have hfirst : givesValueFirst f.toJson = false := rfl
    have hfield : asField? f.toJson = asName? := rfl
    have hparts : ofParts? asName? f.fieldName f.valueToJson = some f := by
      cases f with
      | hasFile b => rfl
      | status s => cases s <;> rfl
      | kind k => cases k <;> rfl
      | season n =>
        have hnumber := asInt32?_ofInt32 n
        rw [fieldName, valueToJson, ofParts?, hnumber, Option.map_some]
      | audioLanguage l => rfl
    rw [ofJson?, hfirst, hfield, toJson, fields?_obj (by simp)]
    simp [Fields.required, memberSlot, asName?, hparts]

theorem SortSpec.faithful : Faithful SortSpec.toJson SortSpec.ofJson? where
  isExact s := by
    refine isExact_obj ?_
    simp only [List.forall_mem_cons]
    exact ⟨SortKey.faithful.isExact _, isExact_bool _, nofun⟩
  decode_encode s := by
    rw [ofJson?, toJson, fields?_obj (by simp)]
    simp [Fields.required, Fields.withDefault, memberSlot, asBool?, SortKey.faithful.decode_encode]

theorem ListQuery.faithful : Faithful ListQuery.toJson ListQuery.ofJson? where
  isExact q := by
    refine isExact_obj ?_
    simp only [List.forall_mem_cons]
    exact ⟨Filter.faithful.list.isExact _, SortSpec.faithful.isExact _, isExact_str _, nofun⟩
  decode_encode q := by
    have hfilters := Filter.faithful.list.decode_encode q.filters
    rw [ofJson?, toJson, fields?_obj (by simp)]
    simp [Fields.withDefault, memberSlot, asText?, hfilters, SortSpec.faithful.decode_encode]

/-! ### Parts of calls -/

theorem Page.faithful {α : Type} {encode : α → Json} {decode : Json → Option α}
    (h : Faithful encode decode) : Faithful (Page.toJson encode) (Page.ofJson? decode) where
  isExact p := by
    refine isExact_obj ?_
    simp only [List.forall_mem_cons]
    exact ⟨h.list.isExact _, Faithful.uint64.isExact _, Faithful.uint32.isExact _,
      Faithful.uint32.isExact _, nofun⟩
  decode_encode p := by
    have hdata := h.list.decode_encode p.data
    rw [ofJson?, toJson, fields?_obj (by simp)]
    simp [Fields.required, memberSlot, hdata, asUInt64?_ofUInt64, asUInt32?_ofUInt32]

/-- A member that is left out if there is no value is exact. -/
theorem isExact_memberIfSome {α : Type} {encode : α → Json} {decode : Json → Option α}
    (h : Faithful encode decode) {name : String} {o : Option α} :
    ∀ m ∈ memberIfSome name encode o, m.2.IsExact := by
  cases o with
  | none => exact nofun
  | some a => exact List.forall_mem_singleton.2 (h.isExact a)

theorem MediaFilters.faithful : Faithful MediaFilters.toJson MediaFilters.ofJson? where
  isExact f := by
    refine isExact_obj ?_
    simp only [List.forall_mem_append]
    exact ⟨⟨isExact_memberIfSome Faithful.bool, isExact_memberIfSome MediaStatus.faithful⟩,
      isExact_memberIfSome Faithful.int64⟩
  decode_encode f := by
    have hfile (b : Bool) : asOption? asBool? (.bool b) = some (some b) := rfl
    have hstatus (s : MediaStatus) : asOption? MediaStatus.ofJson? s.toJson = some (some s) :=
      (MediaStatus.faithful.option fun _ h => nomatch h).decode_encode (some s)
    have hseries (n : Int64) : asOption? asInt64? (ofInt64 n) = some (some n) :=
      (Faithful.int64.option fun _ h => nomatch h).decode_encode (some n)
    obtain ⟨hasFile, status, seriesId⟩ := f
    -- every member is there or not, whatever the others are
    cases hasFile <;> cases status <;> cases seriesId <;>
      (rw [ofJson?, toJson, fields?_obj (by simp [memberIfSome])]
       simp [Fields.optional, memberSlot, memberIfSome, hfile, hstatus, hseries])

theorem BlacklistEntry.faithful : Faithful BlacklistEntry.toJson BlacklistEntry.ofJson? where
  isExact e := by
    refine isExact_obj ?_
    simp only [List.forall_mem_append, List.forall_mem_cons]
    exact ⟨⟨⟨isExact_str _, isExact_str _, isExact_str _, nofun⟩,
      isExact_memberIfSome MediaUnitId.faithful⟩, isExact_memberIfSome Faithful.text⟩
  decode_encode e := by
    have hunit (i : MediaUnitId) : asOption? MediaUnitId.ofJson? i.toJson = some (some i) :=
      (MediaUnitId.faithful.option fun _ h => nomatch h).decode_encode (some i)
    have hpath (s : String) : asOption? asText? (.str s) = some (some s) := rfl
    obtain ⟨provider, subtitle, language, mediaUnitId, filePath⟩ := e
    cases mediaUnitId <;> cases filePath <;>
      (rw [ofJson?, toJson, fields?_obj (by simp [memberIfSome])]
       simp [Fields.required, Fields.withDefault, memberSlot, memberIfSome, asText?, hunit, hpath])

theorem BatchItem.faithful : Faithful BatchItem.toJson BatchItem.ofJson? where
  isExact i := by
    refine isExact_obj ?_
    simp only [List.forall_mem_cons]
    exact ⟨MediaUnitId.faithful.isExact _, isExact_str _, nofun⟩
  decode_encode i := by
    rw [ofJson?, toJson, fields?_obj (by simp)]
    simp [Fields.required, memberSlot, asText?, MediaUnitId.faithful.decode_encode]

theorem BatchStarted.faithful : Faithful BatchStarted.toJson BatchStarted.ofJson? where
  isExact b := by
    refine isExact_obj ?_
    simp only [List.forall_mem_cons]
    exact ⟨JobId.faithful.isExact _, Faithful.uint64.isExact _, nofun⟩
  decode_encode b := by
    rw [ofJson?, toJson, fields?_obj (by simp)]
    simp [Fields.required, memberSlot, JobId.faithful.decode_encode, asUInt64?_ofUInt64]

/-! ### Bodies of requests -/

namespace Http

/-- What the body of a request for a batch asks for. -/
structure BatchWish where
  scope : String
  ids : Option (List MediaUnitId)
  items : Option (List BatchItem)
deriving DecidableEq

/-- A batch that is asked for, in JSON. -/
def BatchWish.toJson (b : BatchWish) : Json := batchBody b.scope b.ids b.items

/-- The batch that a JSON value asks for. -/
def BatchWish.ofJson? (j : Json) : Option BatchWish := do
  let r ← fields? ["scope", "ids", "items"] j
  return {
    scope := ← r.required "scope" asText?
    ids := ← r.optional "ids" (asList? MediaUnitId.ofJson?)
    items := ← r.optional "items" (asList? BatchItem.ofJson?) }

/-- The status that a JSON value asks for. -/
def statusWish? (j : Json) : Option MediaStatus := do
  let r ← fields? ["status"] j
  r.required "status" MediaStatus.ofJson?

theorem BatchWish.faithful : Faithful BatchWish.toJson BatchWish.ofJson? where
  isExact b := by
    refine isExact_obj ?_
    simp only [List.forall_mem_append, List.forall_mem_singleton]
    exact ⟨⟨isExact_str _, isExact_memberIfSome MediaUnitId.faithful.list⟩,
      isExact_memberIfSome BatchItem.faithful.list⟩
  decode_encode b := by
    have hids (is : List MediaUnitId) :
        asOption? (asList? MediaUnitId.ofJson?) (ofList MediaUnitId.toJson is) = some (some is) :=
      (MediaUnitId.faithful.list.option fun _ h => nomatch h).decode_encode (some is)
    have hitems (is : List BatchItem) :
        asOption? (asList? BatchItem.ofJson?) (ofList BatchItem.toJson is) = some (some is) :=
      (BatchItem.faithful.list.option fun _ h => nomatch h).decode_encode (some is)
    obtain ⟨scope, ids, items⟩ := b
    cases ids <;> cases items <;>
      (rw [ofJson?, toJson, batchBody, fields?_obj (by simp [memberIfSome])]
       simp [Fields.required, Fields.optional, memberSlot, memberIfSome, asText?, hids, hitems])

theorem faithful_statusBody :
    Faithful (fun s : MediaStatus => .obj [("status", s.toJson)]) statusWish? where
  isExact s := isExact_obj (List.forall_mem_singleton.2 (MediaStatus.faithful.isExact s))
  decode_encode s := by
    rw [statusWish?, fields?_obj (by simp)]
    simp [Fields.required, memberSlot, MediaStatus.faithful.decode_encode]

end Http

/-! ### All records -/

/-- Values survive the wire: each is read from the text that is written of it, and no two have the
same text. -/
structure RoundTrips {α : Type} (encode : α → Json) (decode : Json → Option α) : Prop where
  found (a : α) : (readText (renderText (encode a))).bind decode = some a
  different {a b : α} (h : renderText (encode a) = renderText (encode b)) : a = b

theorem Json.Faithful.roundTrips {α : Type} {encode : α → Json} {decode : Json → Option α}
    (h : Faithful encode decode) : RoundTrips encode decode := ⟨h.readText, h.injective⟩

/-- What the text of a body asks for, as far as a request has a body. -/
def Http.Wish.asks {α : Type} (w : Http.Wish) (decode : Json → Option α) : Option α :=
  w.body.bind fun j => (readText (renderText j)).bind decode

/-- **Every record is found again in its text, and different records have different texts**, whatever
texts, numbers, maps and sets are in it, and whatever points in time.  So the body of a request asks a
server for what the call says. -/
theorem records_survive :
    RoundTrips MediaUnit.toJson MediaUnit.ofJson? ∧
    RoundTrips Sidecar.toJson Sidecar.ofJson? ∧
    RoundTrips LanguageProfile.toJson LanguageProfile.ofJson? ∧
    RoundTrips JobEvent.toJson JobEvent.ofJson? ∧
    RoundTrips Filter.toJson Filter.ofJson? ∧
    RoundTrips SortSpec.toJson SortSpec.ofJson? ∧
    RoundTrips ListQuery.toJson ListQuery.ofJson? ∧
    RoundTrips MediaFilters.toJson MediaFilters.ofJson? ∧
    RoundTrips BlacklistEntry.toJson BlacklistEntry.ofJson? ∧
    RoundTrips BatchItem.toJson BatchItem.ofJson? ∧
    RoundTrips BatchStarted.toJson BatchStarted.ofJson? ∧
    RoundTrips (Page.toJson MediaUnit.toJson) (Page.ofJson? MediaUnit.ofJson?) ∧
    (∀ scope ids, (Http.wish (.startBatch scope ids)).asks Http.BatchWish.ofJson? =
      some ⟨scope, ids, none⟩) ∧
    (∀ scope items, (Http.wish (.startLanguageBatch scope items)).asks Http.BatchWish.ofJson? =
      some ⟨scope, none, some items⟩) ∧
    (∀ id status, (Http.wish (.setStatus id status)).asks Http.statusWish? = some status) ∧
    ∀ entry, (Http.wish (.blacklist entry)).asks BlacklistEntry.ofJson? = some entry := by
  refine ⟨MediaUnit.faithful.roundTrips, Sidecar.faithful.roundTrips,
    LanguageProfile.faithful.roundTrips, JobEvent.faithful.roundTrips, Filter.faithful.roundTrips,
    SortSpec.faithful.roundTrips, ListQuery.faithful.roundTrips, MediaFilters.faithful.roundTrips,
    BlacklistEntry.faithful.roundTrips, BatchItem.faithful.roundTrips,
    BatchStarted.faithful.roundTrips, (Page.faithful MediaUnit.faithful).roundTrips, ?_, ?_, ?_, ?_⟩
  · intro scope ids
    exact Http.BatchWish.faithful.readText ⟨scope, ids, none⟩
  · intro scope items
    exact Http.BatchWish.faithful.readText ⟨scope, none, some items⟩
  · intro id status
    exact Http.faithful_statusBody.readText status
  · exact BlacklistEntry.faithful.readText

end SubtitleCoverage
