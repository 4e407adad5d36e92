import SubtitleCoverage.Http.Client
import SubtitleCoverage.Proofs.Backend.Exchanges
import SubtitleCoverage.Proofs.Json.Values

/-!
# What comes of calls over the web

A call is one request, and what comes of it is what the reply means.  A page of units is read record
by record, so that a record that cannot be read takes no other one with it.

## Main definitions

* `unitsOf records` — the units among some records.
* `HoldsPage reply records totalPages` — a reply is a page with these records.
* `pageToJson records totalPages` — such a page as a server writes it.

## Main results

* `outcome_units_of_holdsPage` — **the units on a page are its records that can be read**.
* `holdsPage_render` — a page can be written so that it is read with its records.
* `reply_of_carried` — every call that can be sent comes to what the reply to it means.
-/

namespace SubtitleCoverage.Http

open Dialogue Json

/-! ### Pages of units -/

/-- The units among the records of a list: those that can be read. -/
def unitsOf (records : List Json) : List MediaUnit :=
  records.filterMap fun x => MediaUnit.ofJson? x.collapse

/-- A reply is a page with some records, each of which can be kept as a whole, and the number of all
pages is written on it. -/
def HoldsPage (reply : Option Reply) (records : List Json) (totalPages : UInt32) : Prop :=
  ∃ r j slots, reply = some r ∧ isSuccess r.status ∧ r.wholeBody?.bind Json.read = some j ∧
    fields? ["data", "total", "page", "totalPages"] j = some slots ∧
    slots "data" = .given (.arr records) ∧ (∀ x ∈ records, x.fits 125) ∧
    slots.withDefault "totalPages" 0 asUInt32? = some totalPages ∧
    (slots.withDefault "total" 0 asUInt64?).isSome ∧ (slots.withDefault "page" 1 asUInt32?).isSome

theorem salvage?_arr {α : Type} {outer : Nat} (decode : Json → Option α) {records : List Json}
    (h : ∀ x ∈ records, x.fits (126 - outer)) :
    salvage? outer decode (.arr records) = some (records.filterMap fun x => decode x.collapse) := by
  rw [salvage?, if_pos (List.all_eq_true.2 h)]

/-- A reply that means success and can be read is the answer to a call. -/
theorem outcome_of_answer {call : Call} {r : Reply} {a : call.Answer} (hstatus : isSuccess r.status)
    (h : answer? call r = some a) : outcome call (some r) = .ok a := by
  rw [outcome, accepted, if_pos hstatus]
  simp only [h]

/-- **The units on a page are its records that can be read**, in the order of the records. -/
theorem outcome_units_of_holdsPage {reply : Option Reply} {records : List Json} {totalPages : UInt32}
    (h : HoldsPage reply records totalPages) (page pageSize : UInt32) (filters : MediaFilters) :
    ∃ p : Page MediaUnit, outcome (.units page pageSize filters) reply = .ok p ∧
      p.data = unitsOf records ∧ p.totalPages = totalPages := by
  obtain ⟨r, j, slots, rfl, hstatus, hread, hslots, hdata, hfits, htotalPages, htotal, hnumber⟩ := h
  obtain ⟨total, htotal⟩ := Option.isSome_iff_exists.1 htotal
  obtain ⟨number, hnumber⟩ := Option.isSome_iff_exists.1 hnumber
  have hunits : slots.withDefault "data" [] (salvage? 1 MediaUnit.ofJson?) =
      some (unitsOf records) := by
    rw [Fields.withDefault, hdata]
    exact salvage?_arr MediaUnit.ofJson? hfits
  have hpage : unitPage? j = some ⟨unitsOf records, total, number, totalPages⟩ := by
    rw [unitPage?, hslots]
    simp [hunits, htotal, hnumber, htotalPages]
  refine ⟨⟨unitsOf records, total, number, totalPages⟩, outcome_of_answer hstatus ?_, rfl, rfl⟩
  show (r.wholeBody?.bind Json.read).bind unitPage? = _
  rw [hread]
  exact hpage

/-- A page as a server writes it. -/
def pageToJson (records : List Json) (totalPages : UInt32) : Json :=
  .obj [("data", .arr records), ("totalPages", ofUInt32 totalPages)]

/-- A page that a server writes is one that it holds, if its records are read as they are written. -/
theorem holdsPage_render {records : List Json} (totalPages : UInt32)
    (hexact : ∀ t ∈ tokens (.arr records), t.Exact) (hfits : ∀ x ∈ records, x.fits 125) :
    HoldsPage (some ⟨200, render (pageToJson records totalPages), true⟩) records totalPages := by
  have hpages : ∀ t ∈ tokens (ofUInt32 totalPages), t.Exact := by
    intro t ht
    rw [List.mem_singleton.1 ht]
    have hlt := totalPages.toNat_lt
    exact ⟨by omega, by omega⟩
  have hread : Json.read (render (pageToJson records totalPages)) =
      some (pageToJson records totalPages) := by
    refine read_render (forall_mem_tokens_obj (by simp [Token.Exact]) fun m hm => ⟨trivial, ?_⟩)
    rcases List.mem_cons.1 hm with rfl | hm
    · exact hexact
    · rw [List.mem_singleton.1 hm]
      exact hpages
  exact ⟨_, _, memberSlot _, rfl, rfl, hread, rfl, rfl, hfits, asUInt32?_ofUInt32 totalPages, rfl,
    rfl⟩

/-! ### Requests -/

/-- A call is one request, if it can be sent, and comes to what the reply means. -/
theorem ends_perform {c : Client} {call : Call} {part : List ((a : Action) × a.Outcome)}
    {out : call.Outcome} (h : Ends (c.perform call) part out) :
    ∃ reply, out = outcome call reply ∧ ((c.request? call = none ∧ reply = none ∧ part = []) ∨
      ∃ request, c.request? call = some request ∧ part = [⟨.send request, reply⟩]) := by
  rw [Client.perform] at h
  cases hrequest : c.request? call with
  | none =>
    rw [hrequest] at h
    obtain ⟨rfl, rfl⟩ := ends_done_iff.1 h
    exact ⟨none, rfl, .inl ⟨rfl, rfl, rfl⟩⟩
  | some request =>
    rw [hrequest] at h
    obtain ⟨reply, rest, rfl, hrest⟩ := ends_question_bind_iff.1 h
    obtain ⟨rfl, rfl⟩ := ends_done_iff.1 hrest
    exact ⟨reply, rfl, .inr ⟨request, rfl, rfl⟩⟩

/-- Every call that can be sent comes to what the reply to it means. -/
theorem reply_of_carried {c : Client} {calls : List ((call : Call) × call.Outcome)}
    {exchange : List ((a : Action) × a.Outcome)} (h : Carried c.perform calls exchange) {call : Call}
    {out : call.Outcome} (hmem : ⟨call, out⟩ ∈ calls) (hsent : (c.request? call).isSome) :
    ∃ request reply, c.request? call = some request ∧ ⟨.send request, reply⟩ ∈ exchange ∧
      out = outcome call reply := by
  obtain ⟨part, hsub, hpart⟩ := ends_of_mem_carried h hmem
  obtain ⟨reply, rfl, ⟨hnone, -⟩ | ⟨request, hrequest, rfl⟩⟩ := ends_perform hpart
  · rw [hnone] at hsent
    contradiction
  · exact ⟨request, reply, hrequest, hsub (List.mem_singleton_self _), rfl⟩

end SubtitleCoverage.Http
