import SubtitleCoverage.CommandLine.Program
import SubtitleCoverage.Proofs.Http.Replies
import SubtitleCoverage.Proofs.Http.Requests
import SubtitleCoverage.Proofs.Library.FailedLoads

/-!
# What the program does on the web

Most of what the program does on the web is to ask for something.  The requests that are more than
that may change something on the server, and are counted here.

## Main definitions

* `Errands` — what the program has done, with what has come of it.
* `Errand.Queries`, `Errand.changing?`, `Errand.IsIdle` — an errand that asks the server for something,
  the request of one that may change something there, and one that changes nothing.
* `changes exchange` — the requests that may have changed something on the server.

## Main results

* `ends_inquire_iff` — a dialogue with the backend is held call by call.
* `ends_browse_perform_iff` — what a call sends, and what comes of it.
* `asks_inquire_refreshAll` — a load only asks the server for something.
* `ends_load` — the parts of a load.
* `loadTrouble?_eq_none_iff` — **a view that was empty is of use exactly if it is ready**.
-/

namespace SubtitleCoverage.CommandLine

open Dialogue Http

/-- What the program has done, with what has come of it. -/
abbrev Errands : Type := List ((e : Errand) × e.Outcome)

/-- An errand asks the server for something, and no more. -/
def Errand.Queries (e : Errand) : Prop := ∃ r, e = .web (.send r) ∧ r.method = .get

/-- The request of an errand, if it is more than asking for something. -/
def Errand.changing? : Errand → Option Request
  | .web (.send r) | .web (.connect r) => if r.method = .get then none else some r
  | _ => none

/-- An errand changes nothing on the server. -/
def Errand.IsIdle (e : Errand) : Prop := e.changing? = none

/-- The requests that may have changed something on the server. -/
def changes (exchange : Errands) : List Request := exchange.filterMap (·.1.changing?)

@[simp] theorem changes_append (before after : Errands) :
    changes (before ++ after) = changes before ++ changes after := List.filterMap_append

theorem changes_eq_nil_of_asks {α : Type} {t : Task α} {exchange : Errands} {a : α}
    (h : t.Asks Errand.IsIdle) (hends : Ends t exchange a) : changes exchange = [] :=
  List.filterMap_eq_nil_iff.2 (h.of_mem hends)

theorem Errand.Queries.isIdle {e : Errand} (h : e.Queries) : e.IsIdle := by
  obtain ⟨r, rfl, hget⟩ := h
  exact if_pos hget

theorem asks_print (text : String) : (print text).Asks Errand.IsIdle := asks_question rfl

theorem asks_warn (text : String) : (warn text).Asks Errand.IsIdle := asks_question rfl

/-! ### The backend -/

section

variable {α : Type} {c : Client} {exchange : Errands}

/-- A dialogue with the backend is held call by call. -/
theorem ends_inquire_iff {i : Inquiry α} {a : α} :
    Ends (inquire c i) exchange a ↔
      ∃ calls, Ends i calls a ∧ Carried (fun call => browse (c.perform call)) calls exchange := by
  have hcalls : inquire c i = i.translate fun call => browse (c.perform call) :=
    translate_translate c.perform (fun a => (question (Errand.web a) : Task a.Outcome)) i
  rw [hcalls]
  exact ends_translate_iff

/-- What a call sends, and what comes of it. -/
theorem ends_browse_perform_iff {call : Call} {out : call.Outcome} :
    Ends (browse (c.perform call)) exchange out ↔
      (c.request? call = none ∧ exchange = [] ∧ out = outcome call none) ∨
      ∃ request reply, c.request? call = some request ∧
        exchange = [⟨.web (.send request), reply⟩] ∧ out = outcome call reply := by
  rw [Client.perform]
  cases hrequest : c.request? call with
  | none =>
    refine ends_done_iff.trans ?_
    simp
  | some request =>
    refine ends_ask_iff.trans ⟨?_, ?_⟩
    · rintro ⟨reply, rest, rfl, hrest⟩
      obtain ⟨rfl, rfl⟩ := ends_done_iff.1 hrest
      exact .inr ⟨request, reply, rfl, rfl, rfl⟩
    · rintro (⟨hnone, -⟩ | ⟨request', reply, hsame, rfl, rfl⟩)
      · contradiction
      · obtain rfl := Option.some.inj hsame
        exact ⟨reply, [], rfl, .done _⟩

/-- A dialogue of queries only asks the server for something. -/
theorem asks_inquire {i : Inquiry α} (h : i.Asks fun call => (wish call).method = .get) :
    (inquire c i).Asks Errand.Queries := by
  refine (h.translate fun call hget => ?_).translate fun a ha => asks_question ha
  rw [Client.perform]
  cases hrequest : c.request? call with
  | none => trivial
  | some r => exact ⟨⟨r, rfl, (method_of_prepare? hrequest).1.trans hget⟩, fun _ => trivial⟩

end

/-! ### Loads -/

/-- The view of a command is empty before it is loaded. -/
theorem openView_fields (scope : String) (chosen : Option Int64) (config : Config) :
    (openView scope chosen config).units = [] ∧ (openView scope chosen config).profile = none ∧
      (openView scope chosen config).scope = scope ∧
      (openView scope chosen config).profileId = ⟨chosen.getD config.profileId⟩ := by
  cases chosen <;> exact ⟨rfl, rfl, rfl, rfl⟩

/-- Page after page is asked for. -/
theorem asks_walkPages (filters : MediaFilters) (before : List MediaUnit) (page : UInt32) :
    (LibraryView.walkPages filters before page).Asks fun call => (wish call).method = .get := by
  induction before, page using LibraryView.walkPages.induct filters with
  | _ before page ih =>
    rw [LibraryView.walkPages]
    refine ⟨rfl, fun answer => ?_⟩
    cases answer with
    | error f => trivial
    | ok p =>
      dsimp only
      split
      · next hmore => exact ih p hmore
      · trivial

/-- Only the sidecars of units are asked for with their units. -/
theorem asks_fetchSidecars (ids : List MediaUnitId) :
    (LibraryView.fetchSidecars ids).Asks fun call => (wish call).method = .get := by
  induction ids with
  | nil => trivial
  | cons id ids ih => exact ⟨rfl, fun _ => ih.bind fun _ => trivial⟩

/-- A load only asks the server for something. -/
theorem asks_inquire_refreshAll (c : Client) (v : LibraryView) :
    (inquire c v.refreshAll).Asks Errand.Queries := by
  refine asks_inquire ⟨rfl, fun profile => (asks_walkPages ..).bind fun units => ?_⟩
  refine Asks.bind ?_ fun _ => trivial
  cases units with
  | ok us => exact (asks_fetchSidecars _).bind fun _ => trivial
  | error f => trivial

/-- A load of a command may have something to say, and says then whether the view is of use. -/
theorem load_eq (c : Client) (v : LibraryView) :
    load c v = inquire c v.refreshAll >>= fun v' =>
      (match Report.status? v'.status with
        | some text => warn (text ++ "\n")
        | none => done ()) >>= fun _ =>
      done (match loadTrouble? v' with
        | some t => .error t
        | none => .ok v') := by
  rw [load]
  congr 1
  funext v'
  cases loadTrouble? v' <;> cases Report.status? v'.status <;> rfl

/-- The parts of a load of a command. -/
theorem ends_load {c : Client} {v : LibraryView} {exchange : Errands}
    {out : Except Trouble LibraryView} (h : Ends (load c v) exchange out) :
    ∃ v' loading warning, exchange = loading ++ warning ∧ Ends (inquire c v.refreshAll) loading v' ∧
      (∀ e ∈ warning, ∃ text, e.1 = .warn text) ∧
      out = match loadTrouble? v' with
        | some t => .error t
        | none => .ok v' := by
  rw [load_eq] at h
  obtain ⟨loading, warning, v', rfl, hloading, hlater⟩ := ends_bind.1 h
  obtain ⟨_, hwarning, rfl⟩ := ends_map_iff.1 hlater
  refine ⟨v', loading, warning, rfl, hloading, ?_, rfl⟩
  split at hwarning
  · obtain ⟨_, rest, rfl, hrest⟩ := ends_ask_iff.1 hwarning
    obtain ⟨rfl, -⟩ := ends_done_iff.1 hrest
    exact fun e he => ⟨_, congrArg Sigma.fst (List.mem_singleton.1 he)⟩
  · obtain ⟨rfl, -⟩ := ends_done_iff.1 hwarning
    exact fun e he => absurd he List.not_mem_nil

/-- A view that is ready is handed on, and nothing is said about it. -/
theorem ends_load_of_ready {c : Client} {v v' : LibraryView} {exchange : Errands}
    (h : Ends (inquire c v.refreshAll) exchange v') (hstatus : v'.status = .ready) :
    Ends (load c v) exchange (.ok v') := by
  rw [load_eq]
  refine ends_bind.2 ⟨exchange, [], v', (List.append_nil _).symm, h, ?_⟩
  rw [loadTrouble?, hstatus]
  exact .done _

/-- A view that could not be loaded is of no use without units or without a profile. -/
theorem loadTrouble?_ne_none {v : LibraryView} {message : String} {retryable : Bool}
    (hstatus : v.status = .degraded message retryable) (h : v.units = [] ∨ v.profile.isNone) :
    loadTrouble? v ≠ none := by
  rw [loadTrouble?, hstatus]
  simp only
  rw [if_pos (by simpa using h)]
  nofun

/-- **A view that was empty before a load is of use exactly if it is ready.**  If the units have
failed there are none, and if only the profile has failed there is none. -/
theorem loadTrouble?_eq_none_iff {v v' : LibraryView} {calls : List ((c : Call) × c.Outcome)}
    (h : Ends v.refreshAll calls v') (hunits : v.units = []) (hprofile : v.profile = none) :
    loadTrouble? v' = none ↔ v'.status = .ready := by
  obtain ⟨profile, units, walk, rest, w, -, -, htake, rfl⟩ := LibraryView.ends_load h
  cases units with
  | error f =>
    obtain ⟨-, rfl⟩ := ends_done_iff.1 htake
    have hempty : (v.takeProfile profile).units = [] := by
      cases profile <;> exact hunits
    exact iff_of_false (loadTrouble?_ne_none rfl (.inl hempty)) nofun
  | ok us =>
    rw [LibraryView.units_of_ends_takeUnits htake]
    cases profile with
    | ok p => exact iff_of_true rfl rfl
    | error f =>
      exact iff_of_false (loadTrouble?_ne_none rfl (.inr (Option.isNone_iff_eq_none.2 hprofile))) nofun

end SubtitleCoverage.CommandLine
