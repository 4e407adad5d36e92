import Mathlib
import SubtitleCoverage.Proofs.Http.Replies
import SubtitleCoverage.Proofs.Http.Requests
import SubtitleCoverage.Proofs.Library.Loading

/-!
# Loading the whole library over the web

The client passes over records that it cannot read, and the walk over the pages ends with a page
without units.  Together they take a page on which no record can be read for the end of the library.

## Main definitions

* `LibraryView.Serves c v pages exchange` — a server answers for the profile and for some pages.
* `LibraryView.twoPages` — a server with two pages.

## Main results

* `ends_refreshAll_of_serves` — what comes of a load of the whole library.
* `refreshAll_over_web` — **such a load takes over every record that can be read, up to the first
  page that has none**.
-/

namespace SubtitleCoverage

open Dialogue Http Text

namespace LibraryView

/-! ### The load -/

/-- In an exchange a server answers for the profile of a view, and for some pages of records. -/
structure Serves (c : Client) (v : LibraryView) (pages : List (List Json))
    (exchange : List ((a : Action) × a.Outcome)) : Prop where
  /-- The profile can be asked for. -/
  sendsProfile : (c.request? (.profile v.profileId)).isSome
  /-- The first page can be asked for, and so can every other one. -/
  sendsPages : (c.request? (.units 1 serverPageSize v.filters)).isSome
  profile : ∀ request reply, c.request? (.profile v.profileId) = some request →
    ⟨.send request, reply⟩ ∈ exchange → ∃ p, outcome (.profile v.profileId) reply = .ok p
  page : ∀ k records, pages[k]? = some records → ∀ n : UInt32, n.toNat = 1 + k →
    ∀ request reply, c.request? (.units n serverPageSize v.filters) = some request →
      ⟨.send request, reply⟩ ∈ exchange → HoldsPage reply records (.ofNat pages.length)

/-- A load of the whole library takes over the units of all pages before the first one that has
none, and finds nothing wrong. -/
theorem ends_refreshAll_of_serves {c : Client} {v v' : LibraryView} {pages : List (List Json)}
    {exchange : List ((a : Action) × a.Outcome)}
    (h : Ends (v.refreshAll.translate c.perform) exchange v') (hne : pages ≠ [])
    (hsize : pages.length < UInt32.size) (hserves : Serves c v pages exchange) :
    v'.status = .ready ∧ v'.units = ((pages.map unitsOf).takeWhile (!·.isEmpty)).flatten := by
  obtain ⟨calls, hcalls, hcarried⟩ := carried_of_ends_translate h
  obtain ⟨profile, units, walk, rest, w, rfl, hwalk, htake, rfl⟩ := ends_load hcalls
  have hprofile : ∃ p, profile = .ok p := by
    obtain ⟨request, reply, hrequest, hreply, rfl⟩ :=
      reply_of_carried hcarried (List.mem_cons_self ..) hserves.sendsProfile
    exact hserves.profile request reply hrequest hreply
  -- the pages that the walk hears of are those of the server, without what cannot be read
  have hanswers : AnswersPages v.filters (.ofNat pages.length) 1 (pages.map unitsOf) walk := by
    intro k us hk n hn answer hmem
    rw [List.getElem?_map, Option.map_eq_some_iff] at hk
    obtain ⟨records, hrecords, rfl⟩ := hk
    have hsent : (c.request? (.units n serverPageSize v.filters)).isSome := by
      rw [isSome_request? c _ (.units 1 serverPageSize v.filters)]
      exact hserves.sendsPages
    obtain ⟨request, reply, hrequest, hreply, rfl⟩ := reply_of_carried hcarried
      (List.mem_cons_of_mem _ (List.mem_append_left _ hmem)) hsent
    exact outcome_units_of_holdsPage
      (hserves.page k records hrecords n hn request reply hrequest hreply) n serverPageSize v.filters
  have hlength : (UInt32.ofNat pages.length).toNat = pages.length := Nat.mod_eq_of_lt hsize
  have hunits : units = .ok ((pages.map unitsOf).takeWhile (!·.isEmpty)).flatten := by
    refine walkPages_eq_of_answers (pages.map unitsOf) hwalk ?_ ?_ hanswers
    · exact fun hnil => hne (List.map_eq_nil_iff.1 hnil)
    · rw [List.length_map, hlength]
      exact Nat.add_comm ..
  obtain ⟨p, rfl⟩ := hprofile
  rw [hunits] at htake ⊢
  rw [units_of_ends_takeUnits htake]
  exact ⟨rfl, rfl⟩

/-- What is taken of a list of lists up to the first empty one is all of it if only empty ones
follow. -/
theorem flatten_takeWhile_eq_iff {α : Type} (xss : List (List α)) :
    (xss.takeWhile (!·.isEmpty)).flatten = xss.flatten ↔
      ∀ xs ∈ xss.dropWhile (!·.isEmpty), xs = [] := by
  rw [← List.flatten_eq_nil_iff]
  conv => lhs; rhs; rw [← List.takeWhile_append_dropWhile (p := (!·.isEmpty)) (l := xss)]
  rw [List.flatten_append, List.self_eq_append_right]

/-- **A load of the whole library takes over every record that can be read, up to the first page that
has none.**  There it ends, and finds nothing wrong; so it misses something iff a record that can be
read comes after such a page. -/
theorem refreshAll_over_web {c : Client} {v v' : LibraryView} {pages : List (List Json)}
    {exchange : List ((a : Action) × a.Outcome)}
    (h : Ends (v.refreshAll.translate c.perform) exchange v') (hne : pages ≠ [])
    (hsize : pages.length < UInt32.size) (hserves : Serves c v pages exchange) :
    v'.status = .ready ∧ v'.units = ((pages.map unitsOf).takeWhile (!·.isEmpty)).flatten ∧
    (v'.units = (pages.map unitsOf).flatten ↔
      ∀ us ∈ (pages.map unitsOf).dropWhile (!·.isEmpty), us = []) := by
  obtain ⟨hstatus, hunits⟩ := ends_refreshAll_of_serves h hne hsize hserves
  refine ⟨hstatus, hunits, ?_⟩
  rw [hunits]
  exact flatten_takeWhile_eq_iff (pages.map unitsOf)

/-! ### Servers with two pages -/

/-- A reply with a profile, written as an array of its first fields. -/
theorem exists_outcome_profile (id : ProfileId) : ∃ reply p, outcome (.profile id) reply = .ok p := by
  let j : Json := .arr [.num (.int 1), .str "", .str "en", .arr []]
  let p : LanguageProfile := { id := ⟨1⟩, sourceLanguage := "en", targetLanguages := [] }
  have hread : Json.read (Json.render j) = some j :=
    Json.read_render (by simp [j, Json.tokens, Json.elementTokens, Json.Token.Exact])
  refine ⟨some ⟨200, Json.render j, true⟩, p, outcome_of_answer rfl ?_⟩
  show (Json.read (Json.render j)).bind LanguageProfile.ofJson? = some p
  rw [hread]
  rfl

/-- The reply with one page of two. -/
def pageReply (records : List Json) : Option Reply :=
  some ⟨200, Json.render (pageToJson records 2), true⟩

/-- What a server with two pages answers.  The requests are told apart by their queries. -/
def twoPages (profile : Option Reply) (records₁ records₂ : List Json) : (a : Action) → a.Outcome
  | .send r =>
    if r.address.query = some "page=1&pageSize=250" then pageReply records₁
    else if r.address.query = some "page=2&pageSize=250" then pageReply records₂
    else profile
  | .connect _ => none
  | .listen => StreamNews.closed

/-- There is a server with any two pages, if their records are read as they are written. -/
theorem exists_serves (records₁ records₂ : List Json)
    (hexact : ∀ records ∈ [records₁, records₂], ∀ t ∈ Json.tokens (.arr records), t.Exact)
    (hfits : ∀ records ∈ [records₁, records₂], ∀ x ∈ records, x.fits 125) :
    let c : Client := ⟨"http://[::1]", none⟩
    let v := new "library" {}
    ∃ exchange v', Ends (v.refreshAll.translate c.perform) exchange v' ∧
      Serves c v [records₁, records₂] exchange := by
  intro c v
  obtain ⟨profile, p, hp⟩ := exists_outcome_profile v.profileId
  have hprofile : c.request? (.profile v.profileId) =
      some ⟨.get, ⟨.http, "[::1]", 80, "/api/profiles/1", none⟩, none, none, none⟩ := by cbv
  have hpage₁ : c.request? (.units 1 serverPageSize v.filters) = some ⟨.get,
      ⟨.http, "[::1]", 80, "/api/media", some "page=1&pageSize=250"⟩, none, none, none⟩ := by cbv
  have hpage₂ : c.request? (.units 2 serverPageSize v.filters) = some ⟨.get,
      ⟨.http, "[::1]", 80, "/api/media", some "page=2&pageSize=250"⟩, none, none, none⟩ := by cbv
  have hpage : ∀ records ∈ [records₁, records₂], HoldsPage (pageReply records) records 2 :=
    fun records hmem => holdsPage_render 2 (hexact records hmem) (hfits records hmem)
  obtain ⟨exchange, v', hends, hanswers⟩ := exists_ends_of_answers
    (twoPages profile records₁ records₂) (v.refreshAll.translate c.perform)
  refine ⟨exchange, v', hends, by rw [hprofile]; rfl, by rw [hpage₁]; rfl, ?_, ?_⟩
  · intro request reply hrequest hmem
    rw [hprofile] at hrequest
    obtain rfl := Option.some.inj hrequest
    rw [hanswers _ _ hmem]
    exact ⟨p, hp⟩
  · intro k records hk n hn request reply hrequest hmem
    rcases k with _ | _ | k
    · obtain rfl : n = 1 := UInt32.toNat_inj.1 hn
      rw [hpage₁] at hrequest
      obtain rfl := Option.some.inj hrequest
      obtain rfl := Option.some.inj hk
      rw [hanswers _ _ hmem]
      exact hpage _ (List.mem_cons_self ..)
    · obtain rfl : n = 2 := UInt32.toNat_inj.1 hn
      rw [hpage₂] at hrequest
      obtain rfl := Option.some.inj hrequest
      obtain rfl := Option.some.inj hk
      rw [hanswers _ _ hmem]
      exact hpage _ (List.mem_cons_of_mem _ (List.mem_cons_self ..))
    · contradiction

/-- The record of a unit, as an array of its first fields. -/
def record (id : Int) (title : String) : Json := .arr [.num (.int id), .str title]

/-- A page has a record that cannot be read and one that can, and the next page has none. -/
theorem refreshAll_over_web_partly_malformed :
    let c : Client := ⟨"http://[::1]", none⟩
    let v := new "library" {}
    let pages := [[.null, record 7 "Pilot"], [.null]]
    ∃ exchange v', Ends (v.refreshAll.translate c.perform) exchange v' ∧ pages ≠ [] ∧
      pages.length < UInt32.size ∧ Serves c v pages exchange ∧
      v'.status = .ready ∧ v'.units.map (·.id) = [⟨7⟩] ∧
      v'.units = (pages.map unitsOf).flatten := by
  intro c v pages
  have hexact : ∀ records ∈ pages, ∀ t ∈ Json.tokens (.arr records), t.Exact := by
    simp [pages, record, Json.tokens, Json.elementTokens, Json.Token.Exact]
  obtain ⟨exchange, v', hends, hserves⟩ := exists_serves _ _ hexact (by decide)
  obtain ⟨hstatus, hunits, hall⟩ := refreshAll_over_web hends (by simp) (by decide) hserves
  refine ⟨exchange, v', hends, by simp [pages], by decide, hserves, hstatus, ?_, ?_⟩
  · rw [hunits]
    cbv
  · have hdrop : (pages.map unitsOf).dropWhile (!·.isEmpty) = [[]] := by cbv
    rw [hall, hdrop]
    exact fun us hus => List.mem_singleton.1 hus

/-- No record of the first page can be read, and so the unit on the second page is not loaded. -/
theorem refreshAll_over_web_hides_page :
    let c : Client := ⟨"http://[::1]", none⟩
    let v := new "library" {}
    let pages := [[.null], [record 7 "Pilot"]]
    ∃ exchange v', Ends (v.refreshAll.translate c.perform) exchange v' ∧
      Serves c v pages exchange ∧ v'.status = .ready ∧ v'.units = [] ∧
      ((pages.map unitsOf).flatten).map (·.id) = [⟨7⟩] := by
  intro c v pages
  have hexact : ∀ records ∈ pages, ∀ t ∈ Json.tokens (.arr records), t.Exact := by
    simp [pages, record, Json.tokens, Json.elementTokens, Json.Token.Exact]
  obtain ⟨exchange, v', hends, hserves⟩ := exists_serves _ _ hexact (by decide)
  obtain ⟨hstatus, hunits⟩ := ends_refreshAll_of_serves hends (by simp) (by decide) hserves
  exact ⟨exchange, v', hends, hserves, hstatus, hunits, by cbv⟩

end LibraryView

end SubtitleCoverage
