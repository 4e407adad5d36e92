/-!
# Ordered maps

A finite map whose entries come in ascending order of their keys, each key once. The order is part
of the type, so two maps with the same entries are equal and a map read back from its entries is
the map that wrote them.

## Main definitions

* `KeyOrder` — a decidable strict linear order.
* `OrderedMap` — the maps, with `get?`, `insert`, `erase`, `update` and `ofList`.
* `OrderedSet` — ordered sets, as maps to the unit type.

## Main results

* `get?_insert`, `get?_erase`, `get?_map` — what looking up finds after a change.
* `OrderedMap.ext` — maps with the same entries are equal.
-/

namespace SubtitleCoverage

/-! ### Orders on keys -/

/-- A strict linear order that can be decided. -/
class KeyOrder (κ : Type) where
  /-- Whether the first key comes before the second. -/
  before : κ → κ → Bool
  irrefl : ∀ a, before a a = false
  trans : ∀ {a b c}, before a b = true → before b c = true → before a c = true
  total : ∀ a b, before a b = true ∨ a = b ∨ before b a = true

namespace KeyOrder

variable {κ : Type} [KeyOrder κ]

theorem ne_of_before {a b : κ} (h : before a b = true) : a ≠ b := by
  rintro rfl
  rw [irrefl] at h
  contradiction

theorem asymm {a b : κ} (h : before a b = true) : before b a = false := by
  cases hb : before b a with
  | false => rfl
  | true => exact absurd (trans h hb) (by rw [irrefl]; decide)

theorem eq_of_not_before {a b : κ} (h : before a b = false) (h' : before b a = false) : a = b := by
  rcases total a b with hab | hab | hab
  · rw [h] at hab; contradiction
  · exact hab
  · rw [h'] at hab; contradiction

end KeyOrder

instance : KeyOrder String where
  before a b := decide (a < b)
  irrefl a := by simp
  trans h h' := by
    simp only [decide_eq_true_eq] at h h' ⊢
    exact String.lt_trans h h'
  total a b := by
    simp only [decide_eq_true_eq]
    by_cases h : a < b
    · exact .inl h
    · by_cases h' : b < a
      · exact .inr (.inr h')
      · exact .inr (.inl (String.le_antisymm (String.not_lt.1 h') (String.not_lt.1 h)))

/-- Keys that stand for integers are ordered as the integers. -/
@[reducible] def KeyOrder.ofInt {κ : Type} (f : κ → Int) (inj : ∀ a b, f a = f b → a = b) :
    KeyOrder κ where
  before a b := decide (f a < f b)
  irrefl a := by simp
  trans h h' := by simp only [decide_eq_true_eq] at h h' ⊢; omega
  total a b := by
    simp only [decide_eq_true_eq]
    rcases Int.lt_trichotomy (f a) (f b) with h | h | h
    · exact .inl h
    · exact .inr (.inl (inj a b h))
    · exact .inr (.inr h)

/-! ### Entries in order -/

section Entries

variable {κ α : Type} [KeyOrder κ]

open KeyOrder

/-- The keys of the entries ascend. -/
def Ascending (es : List (κ × α)) : Prop := es.Pairwise fun a b => before a.1 b.1 = true

/-- Enters a value under a key, in the place of the value that stood there. -/
def insertEntry (k : κ) (v : α) : List (κ × α) → List (κ × α)
  | [] => [(k, v)]
  | e :: es =>
    if before k e.1 then (k, v) :: e :: es
    else if before e.1 k then e :: insertEntry k v es
    else (k, v) :: es

theorem mem_insertEntry {k : κ} {v : α} {es : List (κ × α)} {e : κ × α}
    (h : e ∈ insertEntry k v es) : e = (k, v) ∨ e ∈ es := by
  induction es with
  | nil => simpa [insertEntry] using h
  | cons e' es ih =>
    rw [insertEntry] at h
    split at h
    · simpa using h
    · split at h
      · rcases List.mem_cons.1 h with rfl | h
        · exact .inr (List.mem_cons_self ..)
        · exact (ih h).imp_right (List.mem_cons_of_mem _)
      · rcases List.mem_cons.1 h with rfl | h
        · exact .inl rfl
        · exact .inr (List.mem_cons_of_mem _ h)

theorem Ascending.insertEntry {k : κ} {v : α} {es : List (κ × α)} (h : Ascending es) :
    Ascending (insertEntry k v es) := by
  induction es with
  | nil => simp [SubtitleCoverage.insertEntry, Ascending]
  | cons e es ih =>
    obtain ⟨he, hes⟩ := List.pairwise_cons.1 h
    rw [SubtitleCoverage.insertEntry]
    split
    next hk =>
      refine List.pairwise_cons.2 ⟨fun a ha => ?_, h⟩
      rcases List.mem_cons.1 ha with rfl | ha
      · exact hk
      · exact trans hk (he a ha)
    next hk =>
      split
      next hk' =>
        refine List.pairwise_cons.2 ⟨fun a ha => ?_, ih hes⟩
        rcases mem_insertEntry ha with rfl | ha
        · exact hk'
        · exact he a ha
      next hk' =>
        have : k = e.1 := eq_of_not_before (by simpa using hk) (by simpa using hk')
        subst this
        exact List.pairwise_cons.2 ⟨fun a ha => he a ha, hes⟩

/-- The value under a key among ascending entries. -/
def findEntry (k : κ) : List (κ × α) → Option α
  | [] => none
  | e :: es => if before e.1 k then findEntry k es else if before k e.1 then none else some e.2

theorem findEntry_insertEntry {k k' : κ} {v : α} {es : List (κ × α)} (h : Ascending es) :
    findEntry k' (insertEntry k v es) =
      if before k k' = false ∧ before k' k = false then some v else findEntry k' es := by
  induction es with
  | nil =>
    simp only [insertEntry, findEntry]
    cases hk : before k k' <;> cases hk' : before k' k <;> simp
  | cons e es ih =>
    obtain ⟨he, hes⟩ := List.pairwise_cons.1 h
    rw [insertEntry]
    split
    next hk =>
      rw [findEntry]
      cases h1 : before k k' <;> cases h2 : before k' k
      · simp
      · have : before k' e.1 = true := trans h2 hk
        simp [findEntry, asymm this, this]
      · simp
      · exact absurd h2 (by rw [asymm h1]; decide)
    next hk =>
      split
      next hk' =>
        rw [findEntry, findEntry, ih hes]
        cases h1 : before e.1 k'
        · cases h2 : before k' e.1
          · have : e.1 = k' := eq_of_not_before h1 h2
            subst this
            simp [hk']
          · have : before k' k = true := trans h2 hk'
            simp [this]
        · simp
      next hk' =>
        have : k = e.1 := eq_of_not_before (by simpa using hk) (by simpa using hk')
        subst this
        rw [findEntry, findEntry]
        cases h1 : before e.1 k' <;> cases h2 : before k' e.1 <;> simp

theorem mem_of_findEntry {k : κ} {v : α} {es : List (κ × α)} (h : findEntry k es = some v) :
    (k, v) ∈ es := by
  induction es with
  | nil => simp [findEntry] at h
  | cons e es ih =>
    rw [findEntry] at h
    split at h
    · exact List.mem_cons_of_mem _ (ih h)
    next h1 =>
      split at h
      · simp at h
      next h2 =>
        have : e.1 = k := eq_of_not_before (by simpa using h1) (by simpa using h2)
        obtain ⟨a, b⟩ := e
        simp only [Option.some.injEq] at h this
        subst this h
        exact List.mem_cons_self ..

theorem findEntry_of_mem {k : κ} {v : α} {es : List (κ × α)} (h : Ascending es)
    (hm : (k, v) ∈ es) : findEntry k es = some v := by
  induction es with
  | nil => simp at hm
  | cons e es ih =>
    obtain ⟨he, hes⟩ := List.pairwise_cons.1 h
    rcases List.mem_cons.1 hm with rfl | hm
    · simp [findEntry, KeyOrder.irrefl]
    · rw [findEntry, if_pos (he _ hm), ih hes hm]

end Entries

/-! ### Maps -/

/-- A finite map with its entries in ascending order of their keys. -/
structure OrderedMap (κ α : Type) [KeyOrder κ] where
  /-- The entries, by key. -/
  entries : List (κ × α)
  ascending : Ascending entries

namespace OrderedMap

variable {κ α : Type} [KeyOrder κ]

@[ext] theorem ext {m m' : OrderedMap κ α} (h : m.entries = m'.entries) : m = m' := by
  cases m; cases m'; cases h; rfl

/-- The map without entries. -/
def empty : OrderedMap κ α := ⟨[], List.Pairwise.nil⟩

instance : Inhabited (OrderedMap κ α) := ⟨empty⟩

instance [DecidableEq κ] [DecidableEq α] : DecidableEq (OrderedMap κ α) := fun m m' =>
  decidable_of_iff (m.entries = m'.entries) ⟨ext, fun h => h ▸ rfl⟩

/-- The value under a key. -/
def get? (m : OrderedMap κ α) (k : κ) : Option α := findEntry k m.entries

/-- Enters a value under a key, in the place of the value that stood there. -/
def insert (m : OrderedMap κ α) (k : κ) (v : α) : OrderedMap κ α :=
  ⟨insertEntry k v m.entries, m.ascending.insertEntry⟩

/-- The map without the entries that fail a test. -/
def filter (m : OrderedMap κ α) (p : κ × α → Bool) : OrderedMap κ α :=
  ⟨m.entries.filter p, m.ascending.filter _⟩

/-- The map without the entry of a key. -/
def erase (m : OrderedMap κ α) (k : κ) : OrderedMap κ α :=
  m.filter fun e => KeyOrder.before e.1 k || KeyOrder.before k e.1

/-- Changes every value, keys kept. -/
def map {β : Type} (m : OrderedMap κ α) (f : α → β) : OrderedMap κ β :=
  ⟨m.entries.map fun e => (e.1, f e.2), by
    have h : m.entries.Pairwise fun a b => KeyOrder.before a.1 b.1 = true := m.ascending
    exact List.pairwise_map.2 h⟩

/-- The map of a list of entries; of two entries under one key the later counts. -/
def ofList (es : List (κ × α)) : OrderedMap κ α :=
  es.foldl (fun m e => m.insert e.1 e.2) empty

/-- The keys, ascending. -/
def keys (m : OrderedMap κ α) : List κ := m.entries.map (·.1)

/-- The values, by key. -/
def values (m : OrderedMap κ α) : List α := m.entries.map (·.2)

/-- Whether a key has a value. -/
def contains (m : OrderedMap κ α) (k : κ) : Bool := (m.get? k).isSome

/-- Whether there is no entry. -/
def isEmpty (m : OrderedMap κ α) : Bool := m.entries.isEmpty

/-- The number of entries. -/
def size (m : OrderedMap κ α) : Nat := m.entries.length

@[simp] theorem get?_empty (k : κ) : (empty : OrderedMap κ α).get? k = none := rfl

theorem get?_insert (m : OrderedMap κ α) [DecidableEq κ] (k k' : κ) (v : α) :
    (m.insert k v).get? k' = if k = k' then some v else m.get? k' := by
  rw [get?, insert, findEntry_insertEntry m.ascending]
  by_cases h : k = k'
  · subst h; simp [KeyOrder.irrefl]
  · rw [if_neg h, if_neg, get?]
    exact fun hb => h (KeyOrder.eq_of_not_before hb.1 hb.2)

/-- A key has a value exactly when the entry is there. -/
theorem get?_eq_some_iff (m : OrderedMap κ α) {k : κ} {v : α} :
    m.get? k = some v ↔ (k, v) ∈ m.entries :=
  ⟨mem_of_findEntry, findEntry_of_mem m.ascending⟩

theorem get?_filter (m : OrderedMap κ α) (p : κ × α → Bool) (k : κ) :
    (m.filter p).get? k = (m.get? k).filter fun v => p (k, v) := by
  apply Option.ext
  intro v
  rw [get?_eq_some_iff, Option.filter_eq_some_iff, get?_eq_some_iff]
  exact List.mem_filter

theorem get?_erase (m : OrderedMap κ α) [DecidableEq κ] (k k' : κ) :
    (m.erase k).get? k' = if k = k' then none else m.get? k' := by
  rw [erase, get?_filter]
  by_cases h : k = k'
  · subst h
    cases m.get? k <;> simp [Option.filter, KeyOrder.irrefl]
  · rw [if_neg h]
    rcases KeyOrder.total k k' with hb | hb | hb
    · cases m.get? k' <;> simp [Option.filter, hb]
    · exact absurd hb h
    · cases m.get? k' <;> simp [Option.filter, hb]

theorem contains_eq_isSome (m : OrderedMap κ α) (k : κ) : m.contains k = (m.get? k).isSome := rfl

/-- The values are what looking up finds. -/
theorem mem_values_iff (m : OrderedMap κ α) {v : α} : v ∈ m.values ↔ ∃ k, m.get? k = some v := by
  simp only [values, List.mem_map, Prod.exists, exists_eq_right, get?_eq_some_iff]

theorem get?_map {β : Type} (m : OrderedMap κ α) (f : α → β) (k : κ) :
    (m.map f).get? k = (m.get? k).map f := by
  apply Option.ext
  intro v
  rw [get?_eq_some_iff, Option.map_eq_some_iff]
  simp only [get?_eq_some_iff, map, List.mem_map, Prod.mk.injEq, Prod.exists]
  constructor
  · rintro ⟨k', a, ha, rfl, rfl⟩
    exact ⟨a, ha, rfl⟩
  · rintro ⟨a, ha, rfl⟩
    exact ⟨k, a, ha, rfl, rfl⟩

/-- A map without entries finds nothing, and no other map does. -/
theorem isEmpty_iff (m : OrderedMap κ α) : m.isEmpty = true ↔ ∀ k, m.get? k = none := by
  rw [isEmpty, List.isEmpty_iff]
  constructor
  · intro h k
    rw [get?, h]
    rfl
  · intro h
    rw [List.eq_nil_iff_forall_not_mem]
    rintro ⟨k, v⟩ he
    rw [← get?_eq_some_iff, h] at he
    cases he

theorem nodup_keys (m : OrderedMap κ α) : m.keys.Nodup :=
  List.pairwise_map.2 (m.ascending.imp KeyOrder.ne_of_before)

end OrderedMap

/-! ### Sets -/

/-- A finite set with its members in ascending order. -/
abbrev OrderedSet (κ : Type) [KeyOrder κ] := OrderedMap κ Unit

/-- The set of the members of a list. -/
def OrderedSet.ofList {κ : Type} [KeyOrder κ] (xs : List κ) : OrderedSet κ :=
  OrderedMap.ofList (xs.map fun x => (x, ()))

end SubtitleCoverage
