import SubtitleCoverage.Proofs.Listing.Answer
import SubtitleCoverage.Proofs.Text.LetterCase

/-!
# Searching for a part of a text

A search puts the search text and the texts of a unit in lower case and looks for the one in the
others.  The case of ASCII letters and blanks around the search text do not matter.  A part of a text
is found in it if its capital sigmas end words where they do in the text, for the final sigma is
another letter in lower case: so every part without a capital sigma is found, and all whole words are.

## Main definitions

* `TypedFor text part` — a search text is a part of a text, as a user may type it.

## Main results

* `TypedFor.searchNeedle_isInfix` — what is sought stands in the lower case of the part.
* `search_finds_parts` — **a search keeps the units that contain the search text in lower case**, and
  among them those with a part for which it was typed.
* `search_misses_sigma` — the beginning of a word that ends with a sigma is not found.
-/

namespace SubtitleCoverage

open Text

/-- A search text for a part of a text: the case of its ASCII letters can be another one, and there can
be blanks around it. -/
def TypedFor (text part : List Char) : Prop :=
  ∃ front typed back, text = front ++ typed ++ back ∧
    front.all isBlank = true ∧ back.all isBlank = true ∧
    typed.map Char.toLower = part.map Char.toLower

/-- What is sought for a part stands in the lower case of the part. -/
theorem TypedFor.searchNeedle_isInfix {text : String} {part : List Char}
    (h : TypedFor text.toList part) :
    searchNeedle text <:+: lowerChars part := by
  obtain ⟨front, typed, back, htext, hfront, hback, hcase⟩ := h
  have hneedle : searchNeedle text = trimChars (lowerChars part) := by
    rw [searchNeedle, htext, trimChars_blanks (List.all_eq_true.1 hfront) (List.all_eq_true.1 hback),
      lowerChars_trimChars, lowerChars_congr hcase]
  rw [hneedle]
  exact trimChars_isInfix _

/-- A unit contains a search text typed for a part of its title or path that keeps its sigmas. -/
theorem MediaUnit.contains_of_typedFor {u : MediaUnit} {text field : String}
    {front part back : List Char} (hfield : field ∈ u.searchFields) (hparts : field.toList = front ++ part ++ back)
    (htyped : TypedFor text.toList part) (hsigmas : KeepsSigmas front part back) :
    u.contains text = true := by
  have hinfix : searchNeedle text <:+: lowerChars field.toList := by
    rw [hparts]
    exact htyped.searchNeedle_isInfix.trans (lowerChars_isInfix hsigmas)
  rw [contains, Bool.or_eq_true, List.any_eq_true]
  exact .inr ⟨field, hfield, (containsChars_iff _ _).2 hinfix⟩

namespace ListQuery

/-- A unit is kept without filters iff the lower case of the search text, without the blanks around it,
stands in the lower case of a field. -/
theorem keeps_search_iff (sort : SortSpec) (text : String) (u : MediaUnit) :
    keeps ⟨[], sort, text⟩ u = true ↔
      ∃ field ∈ u.searchFields, (lower (trim text)).toList <:+: (lower field).toList := by
  simp only [keeps_iff_matches, MediaUnit.Matches, toList_lower]
  constructor
  · rintro ⟨-, hfield⟩
    by_cases hblank : trim text = ""
    · -- nothing is sought, and that is in the title
      rw [hblank]
      exact ⟨u.title, List.mem_cons_self, List.nil_infix⟩
    · exact hfield hblank
  · rintro hfield
    exact ⟨fun f hf => absurd hf List.not_mem_nil, fun _ => hfield⟩

/-- **A search keeps the units that contain the search text in lower case**: without filters a unit is
in the result as often as it came if the lower case of the search text, without the blanks around it,
stands in the lower case of a field, and else it is not there.  So a unit is found by a search text typed
for a part of a field that keeps its sigmas, as the parts without a capital sigma and the parts made of
whole words do. -/
theorem search_finds_parts (us : List MediaUnit) (sort : SortSpec) (text : String) (u : MediaUnit) :
    let found := apply ⟨[], sort, text⟩ us
    ((∃ field ∈ u.searchFields, (lower (trim text)).toList <:+: (lower field).toList) →
      found.count u = us.count u) ∧
    ((∀ field ∈ u.searchFields, ¬(lower (trim text)).toList <:+: (lower field).toList) →
      u ∉ found) ∧
    ∀ field ∈ u.searchFields, ∀ front part back : List Char, field.toList = front ++ part ++ back →
      TypedFor text.toList part →
      KeepsSigmas front part back ∨ 'Σ' ∉ part ∨
        (front.foldl casedAfter false = false ∧ startsCased back = false) →
      found.count u = us.count u := by
  intro found
  let q : ListQuery := ⟨[], sort, text⟩
  have hcount : found.count u = if q.keeps u then us.count u else 0 := count_apply q us u
  refine ⟨?_, ?_, ?_⟩
  · intro h
    rw [hcount, if_pos ((keeps_search_iff sort text u).2 h)]
  · intro h
    rw [← List.count_eq_zero, hcount, if_neg]
    intro hkeeps
    obtain ⟨field, hfield, hin⟩ := (keeps_search_iff sort text u).1 hkeeps
    exact h field hfield hin
  · intro field hfield front part back hparts htyped hsigmas
    have hsigmas : KeepsSigmas front part back := by
      rcases hsigmas with hsigmas | hnone | ⟨hfront, hback⟩
      · exact hsigmas
      · exact keepsSigmas_of_not_mem hnone front back
      · exact keepsSigmas_of_words hfront hback part
    have hcontains := MediaUnit.contains_of_typedFor hfield hparts htyped hsigmas
    rw [hcount, if_pos]
    rw [keeps, Bool.and_eq_true]
    exact ⟨rfl, hcontains⟩

/-- A part with all sigmas of a word, typed in other letters and between blanks. -/
theorem search_finds_odysseus :
    let u : MediaUnit := { id := ⟨1⟩, title := "The ΟΔΥΣΣΕΥΣ Tale" }
    (apply ⟨[], {}, "\t E ΟΔΥΣΣΕΥΣ t "⟩ [u]).count u = 1 := by
  intro u
  have hparts : u.title.toList = "Th".toList ++ "e ΟΔΥΣΣΕΥΣ T".toList ++ "ale".toList := by
    decide +kernel
  have htyped : TypedFor "\t E ΟΔΥΣΣΕΥΣ t ".toList "e ΟΔΥΣΣΕΥΣ T".toList :=
    ⟨"\t ".toList, "E ΟΔΥΣΣΕΥΣ t".toList, " ".toList, by decide +kernel⟩
  have hsigmas : KeepsSigmas "Th".toList "e ΟΔΥΣΣΕΥΣ T".toList "ale".toList := by decide +kernel
  obtain ⟨-, -, hfinds⟩ := search_finds_parts [u] {} "\t E ΟΔΥΣΣΕΥΣ t " u
  rw [hfinds u.title List.mem_cons_self _ _ _ hparts htyped (.inl hsigmas), List.count_singleton_self]

/-- **A sigma in the middle of a word is not found by what is before it**: it ends the search text, and
there its lower case is the final sigma, but it does not end the word. -/
theorem search_misses_sigma :
    let u : MediaUnit := { id := ⟨1⟩, title := "ΑΣΑ" }
    u.title.toList = [] ++ "ΑΣ".toList ++ "Α".toList ∧ trim "ΑΣ" ≠ "" ∧
      TypedFor "ΑΣ".toList "ΑΣ".toList ∧ apply ⟨[], {}, "ΑΣ"⟩ [u] = [] := by
  intro u
  have htyped : TypedFor "ΑΣ".toList "ΑΣ".toList := ⟨[], "ΑΣ".toList, [], by decide +kernel⟩
  have hnone : [u].filter (keeps ⟨[], {}, "ΑΣ"⟩) = [] := by decide +kernel
  refine ⟨by decide +kernel, by decide +kernel, htyped, ?_⟩
  rw [apply, hnone]
  exact (arrange_perm _ []).eq_nil

end ListQuery

end SubtitleCoverage
