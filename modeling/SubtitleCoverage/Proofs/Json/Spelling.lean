import Mathlib.Data.List.Chain
import SubtitleCoverage.Json.Reader
import SubtitleCoverage.Proofs.Json.Tokens

/-!
# Spellings of a JSON value

A JSON value can be written in many ways: blanks may stand before each lexical element and after the
last.  All of them are read as the same value.  Reading goes in two steps.  A spelling is scanned
into its lexical elements because no two numbers stand side by side in a value; and the machine that
reads lexical elements takes those of a value as one, wherever the value stands.

## Main definitions

* `Spells ts bs` — the bytes are the lexical elements with blanks around them.
* `Apart` — no two numbers stand side by side.

## Main results

* `scan_of_spells` — a spelling of lexical elements is scanned into them.
* `forall_mem_tokens_obj` — what holds of all lexical elements of an object.
* `steps_tokens` — the lexical elements of a value complete it, inside any open frames.
* `read_of_spells` — **every spelling of a value is read as the value**.
* `read_render` — what is written is read.
-/

namespace SubtitleCoverage.Json

open Text

/-! ### Spellings -/

/-- Some bytes are the given lexical elements, with blanks around them. -/
inductive Spells : List Token → Bytes → Prop where
  | nil : Spells [] []
  | blank {ts : List Token} {b : UInt8} {bs : Bytes} (hb : isSpace b = true) (h : Spells ts bs) :
    Spells ts (b :: bs)
  | token {ts : List Token} {bs : Bytes} (t : Token) (h : Spells ts bs) :
    Spells (t :: ts) (t.bytes ++ bs)

/-- Lexical elements without blanks are a spelling. -/
theorem spells_flatMap (ts : List Token) : Spells ts (ts.flatMap Token.bytes) := by
  induction ts with
  | nil => exact .nil
  | cons t ts ih => exact .token t ih

/-- No two numbers stand side by side. -/
def Apart (ts : List Token) : Prop :=
  ts.IsChain fun t u => ¬ (t.isNumeral = true ∧ u.isNumeral = true)

theorem apart_cons {t : Token} {ts : List Token} :
    Apart (t :: ts) ↔
      (∀ u ∈ ts.head?, ¬ (t.isNumeral = true ∧ u.isNumeral = true)) ∧ Apart ts :=
  List.isChain_cons

/-- A lexical element that is no number is apart from any other. -/
theorem apart_cons_of_not {t : Token} (ht : t.isNumeral = false) {ts : List Token} (h : Apart ts) :
    Apart (t :: ts) := by
  refine apart_cons.2 ⟨fun u _ hnum => ?_, h⟩
  rw [ht] at hnum
  exact Bool.false_ne_true hnum.1

theorem isSpace_iff {b : UInt8} :
    isSpace b = true ↔ b = 0x20 ∨ b = 0x0A ∨ b = 0x0D ∨ b = 0x09 := by
  simp only [isSpace, Bool.or_eq_true, beq_iff_eq, or_assoc]

/-- A number may stand before a spelling that does not begin with a number. -/
theorem endsNumeral_of_spells {ts : List Token} {bs : Bytes} (h : Spells ts bs)
    (hts : ∀ u ∈ ts.head?, u.isNumeral = false) : EndsNumeral bs := by
  cases h with
  | nil => exact fun b hb => nomatch hb
  | blank hb =>
    rename_i b bs _
    rw [endsNumeral_cons]
    rcases isSpace_iff.1 hb with rfl | rfl | rfl | rfl
    · decide
    · decide
    · decide
    · decide
  | token t =>
    have ht : t.isNumeral = false := hts t rfl
    cases t with
    | num n => cases ht
    | openBrace | closeBrace | openBracket | closeBracket | colon | comma | null | true | false
    | str | garbled => exact endsNumeral_cons.2 (by decide)

/-! ### Scanning -/

theorem scanFrom_blank {b : UInt8} (hb : isSpace b = true) (found : List Token) (bs : Bytes) :
    scanFrom found (b :: bs) = scanFrom found bs := by
  rw [scanFrom, if_pos hb]

theorem scanFrom_token {b : UInt8} {bs rest : Bytes} {t : Token} (hb : isSpace b = false)
    (h : scanToken b bs = some (t, rest)) (found : List Token) :
    scanFrom found (b :: bs) = scanFrom (t :: found) rest := by
  rw [scanFrom, if_neg (by rw [hb]; exact Bool.false_ne_true)]
  split
  · next hnone => rw [h] at hnone; cases hnone
  · next t' rest' hsome =>
    rw [h] at hsome
    obtain ⟨rfl, rfl⟩ := Prod.mk.inj (Option.some.inj hsome)
    rfl

/-- Scanning a spelling goes on with its lexical elements. -/
theorem scanFrom_of_spells {ts : List Token} {bs : Bytes} (h : Spells ts bs)
    (hexact : ∀ t ∈ ts, t.Exact) (hapart : Apart ts) :
    ∀ found, scanFrom found bs = some (found.reverse ++ ts) := by
  induction h with
  | nil => intro found; rw [scanFrom, List.append_nil]
  | blank hb _ ih => intro found; rw [scanFrom_blank hb, ih hexact hapart]
  | @token ts bs t h ih =>
    intro found
    obtain ⟨hnext, hapart⟩ := apart_cons.1 hapart
    have hrest : t.isNumeral = true → EndsNumeral bs := fun ht =>
      endsNumeral_of_spells h fun u hu => by
        have := hnext u hu
        simpa [ht] using this
    obtain ⟨b, cs, hbytes, hspace, hscan⟩ := scanToken_bytes (hexact t (List.mem_cons_self ..)) hrest
    rw [hbytes, List.cons_append, scanFrom_token hspace hscan,
      ih (fun u hu => hexact u (List.mem_cons_of_mem _ hu)) hapart, List.reverse_cons,
      List.append_assoc, List.singleton_append]

/-- **A spelling of lexical elements is scanned into them.** -/
theorem scan_of_spells {ts : List Token} {bs : Bytes} (h : Spells ts bs)
    (hexact : ∀ t ∈ ts, t.Exact) (hapart : Apart ts) : scan bs = some ts := by
  rw [scan, scanFrom_of_spells h hexact hapart, List.reverse_nil, List.nil_append]

/-! ### The lexical elements of a value -/

mutual

/-- In a value no two numbers stand side by side, nor after it if none follows. -/
theorem apart_tokens_append : ∀ (j : Json) {rest : List Token},
    (∀ u ∈ rest.head?, u.isNumeral = false) → Apart rest → Apart (tokens j ++ rest)
  | .null, _, _, h => apart_cons_of_not rfl h
  | .bool Bool.true, _, _, h => apart_cons_of_not rfl h
  | .bool Bool.false, _, _, h => apart_cons_of_not rfl h
  | .str _, _, _, h => apart_cons_of_not rfl h
  | .garbled, _, _, h => apart_cons_of_not rfl h
  | .num _, _, hrest, h =>
    apart_cons.2 ⟨fun u hu hnum => Bool.false_ne_true ((hrest u hu).symm.trans hnum.2), h⟩
  | .arr xs, _, _, h => apart_cons_of_not rfl (apart_elementTokens_append xs h)
  | .obj ms, _, _, h => apart_cons_of_not rfl (apart_memberTokens_append ms h)

theorem apart_elementTokens_append : ∀ (xs : List Json) {rest : List Token},
    Apart rest → Apart (elementTokens xs ++ rest)
  | [], _, h => apart_cons_of_not rfl h
  | [x], rest, h => by
    rw [elementTokens, List.append_assoc]
    exact apart_tokens_append x (fun u hu => Option.some.inj hu ▸ rfl) (apart_cons_of_not rfl h)
  | x :: y :: xs, rest, h => by
    rw [elementTokens, List.append_assoc]
    exact apart_tokens_append x (fun u hu => Option.some.inj hu ▸ rfl)
      (apart_cons_of_not rfl (apart_elementTokens_append (y :: xs) h))

theorem apart_memberTokens_append : ∀ (ms : List (String × Json)) {rest : List Token},
    Apart rest → Apart (memberTokens ms ++ rest)
  | [], _, h => apart_cons_of_not rfl h
  | [(name, x)], rest, h => by
    rw [memberTokens, List.append_assoc]
    exact apart_cons_of_not rfl (apart_cons_of_not rfl
      (apart_tokens_append x (fun u hu => Option.some.inj hu ▸ rfl) (apart_cons_of_not rfl h)))
  | (name, x) :: m :: ms, rest, h => by
    rw [memberTokens, List.append_assoc]
    exact apart_cons_of_not rfl (apart_cons_of_not rfl
      (apart_tokens_append x (fun u hu => Option.some.inj hu ▸ rfl)
        (apart_cons_of_not rfl (apart_memberTokens_append (m :: ms) h))))

end

theorem apart_tokens (j : Json) : Apart (tokens j) := by
  have hnone : ∀ u ∈ ([] : List Token).head?, u.isNumeral = false := fun u hu => nomatch hu
  have h := apart_tokens_append j hnone List.isChain_nil
  rwa [List.append_nil] at h

/-- What holds of the marks of an object, and of each name and value in it, holds of all its lexical
elements. -/
theorem forall_mem_tokens_obj {P : Token → Prop}
    (hmarks : ∀ t ∈ [Token.openBrace, .closeBrace, .colon, .comma], P t) :
    ∀ {ms : List (String × Json)}, (∀ m ∈ ms, P (.str m.1) ∧ ∀ t ∈ tokens m.2, P t) →
      ∀ t ∈ tokens (.obj ms), P t := by
  have hmembers : ∀ ms : List (String × Json),
      (∀ m ∈ ms, P (.str m.1) ∧ ∀ t ∈ tokens m.2, P t) → ∀ t ∈ memberTokens ms, P t := by
    intro ms
    induction ms with
    | nil => exact fun _ t ht => hmarks t (by simp [List.mem_singleton.1 ht])
    | cons m ms ih =>
      intro hms
      obtain ⟨hname, hvalue⟩ := hms m (List.mem_cons_self ..)
      have hrest := ih fun m' hm' => hms m' (List.mem_cons_of_mem _ hm')
      have hcolon : P .colon := hmarks _ (by simp)
      cases ms with
      | nil =>
        have hclose : P .closeBrace := hmarks _ (by simp)
        simpa only [memberTokens, List.cons_append, List.forall_mem_cons, List.forall_mem_append]
          using ⟨hname, hcolon, hvalue, hclose, fun _ h => nomatch h⟩
      | cons m' ms =>
        have hcomma : P .comma := hmarks _ (by simp)
        simpa only [memberTokens, List.cons_append, List.forall_mem_cons, List.forall_mem_append]
          using ⟨hname, hcolon, hvalue, hcomma, hrest⟩
  intro ms hms
  rw [tokens, List.forall_mem_cons]
  exact ⟨hmarks _ (by simp), hmembers ms hms⟩

/-! ### Reading -/

/-- The first token of a value at the place of the first element of an array, where the array might
also end. -/
theorem steps_firstElement (j : Json) (outer : List Frame) (ts : List Token) :
    steps (.firstElement outer) (tokens j ++ ts) =
      steps (.value (.element [] :: outer)) (tokens j ++ ts) := by
  cases j with
  | bool b => cases b <;> rfl
  | null | num | str | arr | obj | garbled => rfl

/-- An array that has elements does not end at the place of the first one. -/
theorem steps_firstElements {xs : List Json} (hxs : xs ≠ []) (outer : List Frame)
    (ts : List Token) :
    steps (.firstElement outer) (elementTokens xs ++ ts) =
      steps (.value (.element [] :: outer)) (elementTokens xs ++ ts) := by
  match xs with
  | [] => exact absurd rfl hxs
  | [x] => rw [elementTokens, List.append_assoc, steps_firstElement]
  | x :: y :: xs => rw [elementTokens, List.append_assoc, steps_firstElement]

/-- An object that has members does not end at the place of the first name. -/
theorem steps_firstNames {ms : List (String × Json)} (hms : ms ≠ []) (outer : List Frame)
    (ts : List Token) :
    steps (.firstName outer) (memberTokens ms ++ ts) =
      steps (.name [] outer) (memberTokens ms ++ ts) := by
  match ms with
  | [] => exact absurd rfl hms
  | [m] => rfl
  | m :: m' :: ms => rfl

/-- Members all of whose names are texts. -/
theorem namedMembers_map (ms : List (String × Json)) :
    namedMembers (ms.map fun m => (some m.1, m.2)) = some ms := by
  rw [namedMembers, List.mapM_map]
  induction ms with
  | nil => rfl
  | cons m ms ih => rw [List.mapM_cons, ih]; rfl

/-- Members that have been read, as an object that is still open keeps them. -/
def readMembers (ms : List (String × Json)) : List (Option String × Json) :=
  (ms.map fun m => (some m.1, m.2)).reverse

theorem readMembers_concat (ms : List (String × Json)) (name : String) (x : Json) :
    readMembers (ms ++ [(name, x)]) = (some name, x) :: readMembers ms := by
  rw [readMembers, List.map_append, List.reverse_append]
  rfl

theorem objectOf_readMembers (ms : List (String × Json)) : objectOf (readMembers ms) = .obj ms := by
  rw [objectOf, readMembers, List.reverse_reverse, namedMembers_map]

mutual

/-- **The lexical elements of a value complete it**, inside any open frames and whatever follows. -/
theorem steps_tokens : ∀ (j : Json) (outer : List Frame) (ts : List Token),
    steps (.value outer) (tokens j ++ ts) = steps (complete outer j) ts
  | .null, _, _ => rfl
  | .bool Bool.true, _, _ => rfl
  | .bool Bool.false, _, _ => rfl
  | .num _, _, _ => rfl
  | .str _, _, _ => rfl
  | .garbled, _, _ => rfl
  | .arr [], _, _ => rfl
  | .arr (x :: xs), outer, ts => by
    have hne : x :: xs ≠ [] := List.cons_ne_nil x xs
    have hfirst := steps_firstElements hne outer ts
    rw [steps_elementTokens (x :: xs) hne] at hfirst
    exact hfirst
  | .obj [], _, _ => rfl
  | .obj (m :: ms), outer, ts => by
    have hne : m :: ms ≠ [] := List.cons_ne_nil m ms
    have hfirst := steps_firstNames hne outer ts
    rw [show [] = readMembers [] from rfl, steps_memberTokens (m :: ms) hne] at hfirst
    exact hfirst

/-- The lexical elements of more elements complete an array. -/
theorem steps_elementTokens : ∀ (xs : List Json), xs ≠ [] →
    ∀ (before : List Json) (outer : List Frame) (ts : List Token),
      steps (.value (.element before :: outer)) (elementTokens xs ++ ts) =
        steps (complete outer (.arr (before.reverse ++ xs))) ts
  | [], h, _, _, _ => absurd rfl h
  | [x], _, before, outer, ts => by
    rw [elementTokens, List.append_assoc, steps_tokens x, ← List.reverse_cons]
    rfl
  | x :: y :: xs, _, before, outer, ts => by
    have hrest := steps_elementTokens (y :: xs) (List.cons_ne_nil y xs) (x :: before) outer ts
    rw [List.reverse_cons, List.append_assoc] at hrest
    rw [elementTokens, List.append_assoc, steps_tokens x]
    exact hrest

/-- The lexical elements of more members complete an object. -/
theorem steps_memberTokens : ∀ (ms : List (String × Json)), ms ≠ [] →
    ∀ (before : List (String × Json)) (outer : List Frame) (ts : List Token),
      steps (.name (readMembers before) outer) (memberTokens ms ++ ts) =
        steps (complete outer (.obj (before ++ ms))) ts
  | [], h, _, _, _ => absurd rfl h
  | [(name, x)], _, before, outer, ts => by
    have hvalue := steps_tokens x (.member (readMembers before) (some name) :: outer)
      (.closeBrace :: ts)
    rw [memberTokens, List.append_assoc, ← objectOf_readMembers, readMembers_concat]
    exact hvalue
  | (name, x) :: m :: ms, _, before, outer, ts => by
    have hvalue := steps_tokens x (.member (readMembers before) (some name) :: outer)
      (.comma :: (memberTokens (m :: ms) ++ ts))
    have hrest := steps_memberTokens (m :: ms) (List.cons_ne_nil m ms) (before ++ [(name, x)])
      outer ts
    rw [readMembers_concat, List.append_assoc] at hrest
    rw [memberTokens, List.append_assoc]
    exact hvalue.trans hrest

end

theorem ofTokens_tokens (j : Json) : ofTokens (tokens j) = some j := by
  have h := steps_tokens j [] []
  rw [List.append_nil] at h
  rw [ofTokens, h]
  rfl

/-- **Every spelling of a value is read as the value.** -/
theorem read_of_spells {j : Json} (hj : ∀ t ∈ tokens j, t.Exact) {bs : Bytes}
    (h : Spells (tokens j) bs) : read bs = some j := by
  rw [read, scan_of_spells h hj (apart_tokens j), Option.bind_some, ofTokens_tokens]

/-- What is written is read. -/
theorem read_render {j : Json} (hj : ∀ t ∈ tokens j, t.Exact) : read (render j) = some j :=
  read_of_spells hj (spells_flatMap _)

end SubtitleCoverage.Json
