import Mathlib.Data.List.Nodup
import SubtitleCoverage.Json.Record
import SubtitleCoverage.Proofs.Json.Spelling
import SubtitleCoverage.Proofs.Text.Utf8Text

/-!
# Values, written as JSON texts and read

A way to write values as JSON is faithful if every value is read from what is written of it.  Whole
numbers of the machine, texts, names, lists, maps, sets and values that may be missing are all
written faithfully if their parts are.  A value that is written faithfully is found again in the
text of its JSON value, so different values have different texts.

## Main definitions

* `IsExact j` — a JSON value with no numbers but whole ones of 64 bits.
* `Faithful encode decode` — what `encode` writes, `decode` reads.

## Main results

* `readText_renderText` — **an exact value is read from its text**, whatever texts are in it.
* `fields?_obj` — an object whose members have different names is a record.
* `Faithful.option`, `Faithful.list`, `Faithful.map`, `Faithful.set` — values made of parts.
* `Faithful.readText`, `Faithful.injective` — **a value is found again in its text**, and no other
  value has that text.
-/

namespace SubtitleCoverage

open Text

/-! ### Maps from their entries -/

section Entries

variable {κ α : Type} [KeyOrder κ]

/-- A key beyond all others comes last. -/
theorem insertEntry_last {k : κ} {v : α} {es : List (κ × α)}
    (h : ∀ e ∈ es, KeyOrder.before e.1 k = true) : insertEntry k v es = es ++ [(k, v)] := by
  induction es with
  | nil => rfl
  | cons e es ih =>
    obtain ⟨he, hes⟩ := List.forall_mem_cons.1 h
    have hnot : ¬ KeyOrder.before k e.1 = true := by
      rw [KeyOrder.asymm he]
      exact Bool.false_ne_true
    rw [insertEntry, if_neg hnot, if_pos he, ih hes, List.cons_append]

/-- **A map is that of its entries.** -/
theorem OrderedMap.ofList_entries (m : OrderedMap κ α) : OrderedMap.ofList m.entries = m := by
  have hfold : ∀ (es : List (κ × α)) (m' : OrderedMap κ α), Ascending (m'.entries ++ es) →
      (es.foldl (fun m e => m.insert e.1 e.2) m').entries = m'.entries ++ es := by
    intro es
    induction es with
    | nil =>
      intro m' _
      rw [List.foldl_nil, List.append_nil]
    | cons e es ih =>
      intro m' h
      have hlast : (m'.insert e.1 e.2).entries = m'.entries ++ [e] :=
        insertEntry_last fun e' he' =>
          (List.pairwise_append.1 h).2.2 e' he' e (List.mem_cons_self ..)
      rw [List.foldl_cons, ih, hlast, List.append_assoc, List.singleton_append]
      rwa [hlast, List.append_assoc, List.singleton_append]
  exact OrderedMap.ext (hfold m.entries .empty m.ascending)

end Entries

namespace Json

/-! ### Texts of values -/

/-- Between quotes a byte beyond ASCII stands for itself. -/
theorem escape_of_beyond {b : UInt8} (h : ¬ b < 0x80) : escape b = [b] := by
  have hn : ¬ b.toNat < 0x80 := fun hlt => h (UInt8.lt_iff_toNat_lt.2 hlt)
  have hne {n : UInt8} (hlt : n.toNat < 0x80) : b ≠ n := fun heq => hn (heq ▸ hlt)
  have hcontrol : ¬ b < 0x20 := by
    rw [UInt8.lt_iff_toNat_lt]
    exact fun hlt => hn (Nat.lt_trans hlt (by decide))
  rw [escape, if_neg (not_or.2 ⟨hne (by decide), hne (by decide)⟩), if_neg (hne (by decide)),
    if_neg (hne (by decide)), if_neg (hne (by decide)), if_neg (hne (by decide)),
    if_neg (hne (by decide)), if_neg hcontrol]

/-- What is written between quotes for a text is a text. -/
theorem isUtf8_escape (s : String) : IsUtf8 ((utf8Bytes s).flatMap escape) := by
  rw [← String.ofList_toList (s := s), utf8Bytes_ofList, List.flatMap_assoc]
  refine .flatMap fun c _ => ?_
  by_cases h : c.toNat < 0x80
  · have hchar : ∀ d ∈ (String.ofList [c]).toList, d.toNat < 0x80 := by
      rw [String.toList_ofList, List.forall_mem_singleton]
      exact h
    have hbytes := utf8Bytes_lt hchar
    rw [utf8Bytes_ofList, List.flatMap_singleton] at hbytes
    refine .ascii fun d hd => ?_
    obtain ⟨b, hb, hd⟩ := List.mem_flatMap.1 hd
    exact (printed_escape hd).2 (hbytes b hb)
  · have hbytes := beyond_utf8EncodeChar (Nat.le_of_not_lt h)
    have hsame : (String.utf8EncodeChar c).flatMap escape = String.utf8EncodeChar c := by
      rw [List.flatMap_congr fun b hb => escape_of_beyond (hbytes b hb)]
      exact List.flatMap_singleton' _
    rw [hsame]
    exact .char c

theorem isUtf8_bytes (t : Token) : IsUtf8 t.bytes := by
  have hquote : IsUtf8 [0x22] := .ascii (List.forall_mem_singleton.2 (by decide))
  cases t with
  | str s => exact (hquote.append (isUtf8_escape s)).append hquote
  | openBrace | closeBrace | openBracket | closeBracket | colon | comma | null | true | false
  | num | garbled => exact .ascii fun b hb => (printed_bytes hb).2 nofun

/-- A JSON value is written as a text. -/
theorem isUtf8_render (j : Json) : IsUtf8 (render j) := .flatMap fun t _ => isUtf8_bytes t

/-- The lexical elements of a value are scanned as they are: its numbers are whole ones of 64 bits,
signed or not. -/
def IsExact (j : Json) : Prop := ∀ t ∈ tokens j, t.Exact

/-- **An exact value is read from its text.** -/
theorem readText_renderText {j : Json} (h : j.IsExact) : readText (renderText j) = some j := by
  rw [readText, renderText, (isUtf8_render j).utf8Bytes_utf8Text, read_render h]

/-! ### Exact values -/

theorem isExact_null : IsExact .null := fun _ ht => List.mem_singleton.1 ht ▸ trivial

theorem isExact_bool (b : Bool) : IsExact (.bool b) := by
  cases b <;> exact fun _ ht => List.mem_singleton.1 ht ▸ trivial

theorem isExact_str (s : String) : IsExact (.str s) := fun _ ht => List.mem_singleton.1 ht ▸ trivial

theorem isExact_ofInt {n : Int} (hlow : -2 ^ 63 ≤ n) (hhigh : n < 2 ^ 64) : IsExact (ofInt n) :=
  fun _ ht => List.mem_singleton.1 ht ▸ ⟨hlow, hhigh⟩

/-- An array of exact values is exact. -/
theorem isExact_arr {xs : List Json} (h : ∀ x ∈ xs, x.IsExact) : IsExact (.arr xs) := by
  have helements : ∀ t ∈ elementTokens xs, t.Exact := by
    induction xs with
    | nil => exact fun _ ht => List.mem_singleton.1 ht ▸ trivial
    | cons x xs ih =>
      obtain ⟨hx, hxs⟩ := List.forall_mem_cons.1 h
      cases xs with
      | nil =>
        rw [elementTokens, List.forall_mem_append, List.forall_mem_singleton]
        exact ⟨hx, trivial⟩
      | cons y ys =>
        rw [elementTokens, List.forall_mem_append, List.forall_mem_cons]
        exact ⟨hx, trivial, ih hxs⟩
  rw [IsExact, tokens, List.forall_mem_cons]
  exact ⟨trivial, helements⟩

/-- An object of exact values is exact. -/
theorem isExact_obj {ms : List (String × Json)} (h : ∀ m ∈ ms, m.2.IsExact) :
    IsExact (.obj ms) := by
  refine forall_mem_tokens_obj ?_ fun m hm => ⟨trivial, h m hm⟩
  simp [Token.Exact]

/-! ### Records -/

/-- **An object whose members have different names is a record.** -/
theorem fields?_obj {ms : List (String × Json)} (h : (ms.map (·.1)).Nodup) (names : List String) :
    fields? names (.obj ms) = some (memberSlot ms) := by
  have hcount : ∀ n, ms.countP (fun m => m.1 == n) ≤ 1 := by
    intro n
    have hone := List.nodup_iff_count_le_one.1 h n
    rwa [List.count, List.countP_map] at hone
  rw [fields?, if_pos]
  exact List.all_eq_true.2 fun n _ => decide_eq_true (hcount n)

/-! ### Numbers -/

theorem asInt64?_ofInt64 (n : Int64) : asInt64? (ofInt64 n) = some n := by
  have hlow : Int64.minValue.toInt ≤ n.toInt := n.minValue_le_toInt
  have hhigh : n.toInt ≤ Int64.maxValue.toInt := n.toInt_le
  have hint : asInt? (ofInt64 n) = some n.toInt := rfl
  rw [asInt64?, hint, Option.bind_eq_bind, Option.bind_some, if_pos ⟨hlow, hhigh⟩, Int64.ofInt_toInt]

theorem asInt32?_ofInt32 (n : Int32) : asInt32? (ofInt32 n) = some n := by
  have hlow : Int32.minValue.toInt ≤ n.toInt := n.minValue_le_toInt
  have hhigh : n.toInt ≤ Int32.maxValue.toInt := n.toInt_le
  have hint : asInt? (ofInt32 n) = some n.toInt := rfl
  rw [asInt32?, hint, Option.bind_eq_bind, Option.bind_some, if_pos ⟨hlow, hhigh⟩, Int32.ofInt_toInt]

theorem asUInt64?_ofUInt64 (n : UInt64) : asUInt64? (ofUInt64 n) = some n := by
  have hlt : n.toNat < UInt64.size := n.toNat_lt
  have hint : asInt? (ofUInt64 n) = some (n.toNat : Int) := rfl
  rw [asUInt64?, hint, Option.bind_eq_bind, Option.bind_some, Int.toNat_natCast,
    if_pos ⟨Int.natCast_nonneg _, hlt⟩, UInt64.ofNat_toNat]

theorem asUInt32?_ofUInt32 (n : UInt32) : asUInt32? (ofUInt32 n) = some n := by
  have hlt : n.toNat < UInt32.size := n.toNat_lt
  have hint : asInt? (ofUInt32 n) = some (n.toNat : Int) := rfl
  rw [asUInt32?, hint, Option.bind_eq_bind, Option.bind_some, Int.toNat_natCast,
    if_pos ⟨Int.natCast_nonneg _, hlt⟩, UInt32.ofNat_toNat]

/-- A value that may be missing is read if none of the values is written like a missing one. -/
theorem asOption?_ofOption {α : Type} {decode : Json → Option α} {encode : α → Json}
    (h : ∀ a, decode (encode a) = some a) (hnull : ∀ a, encode a ≠ .null) (o : Option α) :
    asOption? decode (ofOption encode o) = some o := by
  cases o with
  | none => rfl
  | some a =>
    rw [ofOption, asOption?.eq_def]
    split
    · next heq => exact absurd heq (hnull a)
    · rw [h]
      rfl

/-! ### Faithful ways to write -/

section Faithful

variable {α β : Type} {encode : α → Json} {decode : Json → Option α}

/-- What is written is exact, and every value is read from it. -/
structure Faithful (encode : α → Json) (decode : Json → Option α) : Prop where
  isExact (a : α) : (encode a).IsExact
  decode_encode (a : α) : decode (encode a) = some a

namespace Faithful

/-- **A value is found again in its text.** -/
theorem readText (h : Faithful encode decode) (a : α) :
    (readText (renderText (encode a))).bind decode = some a := by
  rw [readText_renderText (h.isExact a), Option.bind_some, h.decode_encode]

/-- **Different values have different texts.** -/
theorem injective (h : Faithful encode decode) {a b : α}
    (heq : renderText (encode a) = renderText (encode b)) : a = b := by
  have ha := h.readText a
  rw [heq, h.readText b] at ha
  exact (Option.some.inj ha).symm

theorem text : Faithful .str asText? := ⟨isExact_str, fun _ => rfl⟩

theorem bool : Faithful .bool asBool? := ⟨isExact_bool, fun _ => rfl⟩

theorem int64 : Faithful ofInt64 asInt64? where
  isExact n := by
    have hlow := n.le_toInt
    have hhigh := n.toInt_lt
    exact isExact_ofInt hlow (by omega)
  decode_encode := asInt64?_ofInt64

theorem int32 : Faithful ofInt32 asInt32? where
  isExact n := by
    have hlow := n.le_toInt
    have hhigh := n.toInt_lt
    exact isExact_ofInt (by omega) (by omega)
  decode_encode := asInt32?_ofInt32

theorem uint64 : Faithful ofUInt64 asUInt64? where
  isExact n := by
    have hlt := n.toNat_lt
    exact isExact_ofInt (by omega) (by omega)
  decode_encode := asUInt64?_ofUInt64

theorem uint32 : Faithful ofUInt32 asUInt32? where
  isExact n := by
    have hlt := n.toNat_lt
    exact isExact_ofInt (by omega) (by omega)
  decode_encode := asUInt32?_ofUInt32

/-- A value that is kept as another one. -/
theorem wrap (h : Faithful encode decode) {f : β → α} {g : α → β} (hg : ∀ b, g (f b) = b) :
    Faithful (fun b => encode (f b)) (fun j => (decode j).map g) where
  isExact b := h.isExact (f b)
  decode_encode b := by rw [h.decode_encode, Option.map_some, hg]

/-- A value that is written as a text. -/
theorem spelled {spell : α → String} {ofText? : String → Option α}
    (h : ∀ a, ofText? (spell a) = some a) :
    Faithful (fun a => .str (spell a)) (fun j => (asText? j).bind ofText?) where
  isExact a := isExact_str (spell a)
  decode_encode := h

/-- A value that is written as a name out of a fixed choice. -/
theorem named {name : α → String} {ofName? : String → Option α}
    (h : ∀ a, ofName? (name a) = some a) :
    Faithful (fun a => .str (name a)) (fun j => (asName? j).bind ofName?) where
  isExact a := isExact_str (name a)
  decode_encode := h

theorem isExact_ofOption (h : Faithful encode decode) (o : Option α) :
    (ofOption encode o).IsExact := by
  cases o with
  | none => exact isExact_null
  | some a => exact h.isExact a

/-- A value that may be missing, if none of the values is written like a missing one. -/
theorem option (h : Faithful encode decode) (hnull : ∀ a, encode a ≠ .null) :
    Faithful (ofOption encode) (asOption? decode) :=
  ⟨h.isExact_ofOption, asOption?_ofOption h.decode_encode hnull⟩

theorem mapM_map (h : Faithful encode decode) (xs : List α) :
    (xs.map encode).mapM decode = some xs := by
  induction xs with
  | nil => rfl
  | cons x xs ih =>
    rw [List.map_cons, List.mapM_cons, h.decode_encode, ih]
    rfl

theorem list (h : Faithful encode decode) : Faithful (ofList encode) (asList? decode) where
  isExact xs := by
    refine isExact_arr fun j hj => ?_
    obtain ⟨x, -, rfl⟩ := List.mem_map.1 hj
    exact h.isExact x
  decode_encode := h.mapM_map

/-- A map from texts is read with all its entries, since no name is there twice. -/
theorem map (h : Faithful encode decode) : Faithful (ofMap encode) (asMap? decode) where
  isExact m := by
    refine isExact_obj fun e he => ?_
    obtain ⟨e, -, rfl⟩ := List.mem_map.1 he
    exact h.isExact e.2
  decode_encode m := by
    have hentries : ∀ es : List (String × α),
        ((es.map fun e => (e.1, encode e.2)).mapM fun m => (decode m.2).map fun a => (m.1, a)) =
          some es := by
      intro es
      induction es with
      | nil => rfl
      | cons e es ih =>
        rw [List.map_cons, List.mapM_cons, h.decode_encode, ih]
        rfl
    rw [ofMap, asMap?, hentries, Option.map_some, OrderedMap.ofList_entries]

theorem set : Faithful ofSet asSet? where
  isExact s := by
    refine isExact_arr fun j hj => ?_
    obtain ⟨k, -, rfl⟩ := List.mem_map.1 hj
    exact isExact_str k
  decode_encode s := by
    have hkeys : asList? asText? (ofSet s) = some s.keys := text.mapM_map s.keys
    have hentries : s.keys.map (fun k => (k, ())) = s.entries := by
      rw [OrderedMap.keys, List.map_map]
      exact List.map_id _
    rw [asSet?, hkeys, Option.map_some, OrderedSet.ofList, hentries, OrderedMap.ofList_entries]

end Faithful

end Faithful

end Json

end SubtitleCoverage
