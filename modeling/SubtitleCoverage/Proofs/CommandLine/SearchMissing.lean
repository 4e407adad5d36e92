import Mathlib
import SubtitleCoverage.Proofs.CommandLine.Errands
import SubtitleCoverage.Proofs.Library.Changes

/-!
# The command that searches for what is missing

The command loads the library, opens the stream of job events if the search is to be followed, and
then sends at most one request that is more than a question.  It gets so far only if everything that
it needs has come.

## Main definitions

* `itemsOn pages p` — the items of a search over the units on some pages.
* `OpensStreamFirst c exchange` — the stream of job events was opened before anything was changed.
* `openAndSearch` — what the command does once the view is loaded.

## Main results

* `ends_browse_connect` — what comes of opening the stream.
* `changes_of_ends_startSearch` — what a search changes once a view is loaded.
* `searchMissing_starts_only_missing` — **the command starts nothing but one search**, and that one
  exactly if it can be sure of what is missing.
-/

namespace SubtitleCoverage.CommandLine

open Dialogue Http

/-- The items of a search over the units on some pages. -/
def itemsOn (pages : List (Page MediaUnit)) (p : LanguageProfile) : List BatchItem :=
  (missingPairs (pages.flatMap (·.data)) p).map fun e => ⟨e.unitId, e.language⟩

/-- The stream of job events was opened before anything was changed on the server. -/
def OpensStreamFirst (c : Client) (exchange : Errands) : Prop :=
  ∃ before request reply after, c.prepare? streamWish = some request ∧
    exchange = before ++ ⟨.web (.connect request), some reply⟩ :: after ∧
    isSuccess reply.status ∧ changes before = []

variable {c : Client} {exchange : Errands}

/-! ### The stream -/

theorem map_accepted_eq_ok_iff (failed : String → Fault) (reply : Option Reply) :
    (accepted failed reply).map (fun _ => ()) = .ok () ↔
      ∃ r, reply = some r ∧ isSuccess r.status := by
  cases reply with
  | none => simp [accepted, Except.map]
  | some r =>
    rw [accepted]
    by_cases hstatus : isSuccess r.status <;> simp [hstatus, Except.map]

/-- What comes of opening the stream of job events. -/
theorem ends_browse_connect {out : Except Fault Unit} (h : Ends (browse c.connect) exchange out) :
    (exchange = [] ∧ ∃ f, out = .error f) ∨
    ∃ request reply, c.prepare? streamWish = some request ∧
      exchange = [⟨.web (.connect request), reply⟩] ∧
      (out = .ok () ↔ ∃ r, reply = some r ∧ isSuccess r.status) := by
  rw [Client.connect] at h
  cases hrequest : c.prepare? streamWish with
  | none =>
    rw [hrequest] at h
    obtain ⟨rfl, rfl⟩ := ends_done_iff.1 h
    exact .inl ⟨rfl, _, rfl⟩
  | some request =>
    rw [hrequest] at h
    obtain ⟨reply, rest, rfl, hrest⟩ := ends_ask_iff.1 h
    obtain ⟨rfl, rfl⟩ := ends_done_iff.1 hrest
    exact .inr ⟨request, reply, rfl, rfl, map_accepted_eq_ok_iff ..⟩

/-- Opening the stream changes nothing on the server. -/
theorem changes_of_ends_browse_connect {out : Except Fault Unit}
    (h : Ends (browse c.connect) exchange out) : changes exchange = [] := by
  rcases ends_browse_connect h with ⟨rfl, -⟩ | ⟨request, reply, hrequest, rfl, -⟩
  · rfl
  · have hget : request.method = .get := (method_of_prepare? hrequest).1
    have hidle : (Errand.web (.connect request)).IsIdle := if_pos hget
    exact List.filterMap_cons_none hidle

/-! ### Following -/

theorem asks_printProgress (b : Board) (job : JobId) :
    (printProgress b job).Asks Errand.IsIdle := by
  unfold printProgress
  split
  · exact asks_print _
  · trivial

/-- Waiting for a job changes nothing on the server. -/
theorem asks_await (job : JobId) (count : Nat) (d : StreamDecoder) (s : Session) :
    (await job count d s).Asks Errand.IsIdle := by
  induction count generalizing d s with
  | zero => trivial
  | succ count ih =>
    refine ⟨rfl, fun news => ?_⟩
    dsimp only
    split
    · trivial
    · split
      · exact (asks_printProgress ..).bind fun _ => ih _ _
      · exact ih _ _

/-- Following a job changes nothing on the server. -/
theorem asks_follow (c : Client) (v : LibraryView) (s : Session) (job : JobId) :
    (follow c v s job).Asks Errand.IsIdle := by
  refine (asks_print _).bind fun _ => (asks_printProgress ..).bind fun _ =>
    (asks_await ..).bind fun ⟨ending, s'⟩ => ?_
  cases ending with
  | finished =>
    have hreload := (asks_inquire_refreshAll c v).mono fun e he => he.isIdle
    exact (asks_printProgress ..).bind fun _ => hreload.bind fun _ => asks_print _
  | closed => exact asks_warn _
  | interrupted => exact asks_warn _

/-! ### The search -/

/-- A search for what is missing in a view is the only change, if something is missing. -/
theorem changes_of_ends_startSearch {v : LibraryView} {s : Session} {follows : Bool}
    {out : Except Trouble Unit} (h : Ends (startSearch c v s follows) exchange out)
    (hprofile : v.profile ≠ none) :
    changes exchange = if v.missingItems = [] then []
      else (c.request? (.startLanguageBatch v.scope v.missingItems)).toList := by
  obtain ⟨asked, after, o, rfl, hasked, hafter⟩ := ends_bind.1 h
  have hquiet : changes after = [] := by
    refine changes_eq_nil_of_asks ?_ hafter
    split
    · exact (asks_warn _).bind fun _ => trivial
    · exact (asks_print _).bind fun _ => trivial
    · refine (asks_print _).bind fun _ => ?_
      split
      · exact (asks_follow ..).bind fun _ => trivial
      · trivial
  rw [changes_append, hquiet, List.append_nil]
  obtain ⟨calls, hcalls, hcarried⟩ := ends_inquire_iff.1 hasked
  rcases LibraryView.ends_searchMissing hcalls with ⟨hnone, -⟩ | ⟨-, hitems, rfl, -⟩ |
    ⟨-, hitems, answer, rfl, -⟩
  · exact absurd hnone hprofile
  · rw [if_pos hitems]
    cases hcarried
    rfl
  · rw [if_neg hitems]
    cases hcarried with
    | cons hpart hrest =>
      cases hrest
      rcases ends_browse_perform_iff.1 hpart with ⟨hnone, rfl, -⟩ | ⟨request, reply, hrequest, rfl, -⟩
      · rw [hnone]
        rfl
      · have hpost : request.method = .post := (method_of_prepare? hrequest).1
        have hchange : (Errand.web (.send request)).changing? = some request :=
          if_neg (by rw [hpost]; nofun)
        rw [hrequest]
        exact List.filterMap_cons_some hchange

/-- A client that has been answered can send every call. -/
theorem isSome_request?_of_answered {calls : List ((call : Call) × call.Outcome)} {call : Call}
    {a : call.Answer} (h : Carried (fun call => browse (c.perform call)) calls exchange)
    (hmem : ⟨call, .ok a⟩ ∈ calls) (call' : Call) : (c.request? call').isSome := by
  obtain ⟨part, -, hpart⟩ := ends_of_mem_carried h hmem
  rcases ends_browse_perform_iff.1 hpart with ⟨-, -, hout⟩ | ⟨request, -, hrequest, -, -⟩
  · cases hout
  · rw [isSome_request? c call' call, hrequest]
    rfl

/-! ### The command -/

/-- What a search over a view asks for, by the answers to the load of the view. -/
theorem missingItems_of_loadedBy {v v' : LibraryView} {p : LanguageProfile}
    {pages : List (Page MediaUnit)} {calls : List ((c : Call) × c.Outcome)}
    (h : v.LoadedBy v' (.ok p) calls) (hpages : pageAnswers calls = pages.map .ok) :
    v'.missingItems = itemsOn pages p := by
  rw [LibraryView.missingItems, LibraryView.missingPairs, h.profile_eq, (h.of_pages pages hpages).1]
  rfl

/-- Neither a load nor what is said about it changes anything or opens a stream. -/
theorem idle_of_ends_load {v v' : LibraryView} {loading warning : Errands}
    (hloading : Ends (inquire c v.refreshAll) loading v')
    (hwarning : ∀ e ∈ warning, ∃ text, e.1 = .warn text) :
    changes (loading ++ warning) = [] ∧
      ∀ request reply, ⟨.web (.connect request), reply⟩ ∉ loading ++ warning := by
  have hquery := (asks_inquire_refreshAll c v).of_mem hloading
  constructor
  · refine List.filterMap_eq_nil_iff.2 fun e he => ?_
    rcases List.mem_append.1 he with he | he
    · exact (hquery e he).isIdle
    · obtain ⟨text, htext⟩ := hwarning e he
      rw [htext]
      rfl
  · intro request reply he
    rcases List.mem_append.1 he with he | he
    · obtain ⟨r, hr, -⟩ := hquery _ he
      cases hr
    · obtain ⟨text, htext⟩ := hwarning _ he
      cases htext

/-- A request is the only change if there is a reason for it, and else there is none. -/
def ChangesIf (exchange : Errands) (request : Option Request) (reason : Prop) : Prop :=
  (changes exchange = [] ∧ ¬reason) ∨ (changes exchange = request.toList ∧ reason)

/-- What the command does with a view that is of use. -/
def openAndSearch (c : Client) (v : LibraryView) (s : Session) (follows : Bool) :
    Task (Except Trouble Unit) := do
  match ← (if follows then browse c.connect else pure (.ok ())) with
  | .error f =>
    return .error ⟨"Could not subscribe to progress events; nothing was started", some f.message⟩
  | .ok () => startSearch c v s follows

/-- Once a view is loaded, what is missing in it is searched for if there is something, after the stream
has been opened if the search is to be followed.  If the stream cannot be opened nothing more is
done. -/
theorem changes_of_ends_ready {v : LibraryView} {s : Session} {follows : Bool} {before rest : Errands}
    {out : Except Trouble Unit} (hquiet : changes before = [])
    (hclosed : ∀ request reply, ⟨.web (.connect request), reply⟩ ∉ before) (hprofile : v.profile ≠ none)
    (h : Ends (openAndSearch c v s follows) rest out) :
    ChangesIf (before ++ rest) (c.request? (.startLanguageBatch v.scope v.missingItems))
      (v.missingItems ≠ [] ∧ (follows → OpensStreamFirst c (before ++ rest))) := by
  obtain ⟨opening, search, opened, rfl, hopening, hsearch⟩ := ends_bind.1 h
  -- a search that comes to be changes something only if it has items
  have hsearched (hfirst : follows → OpensStreamFirst c (before ++ (opening ++ search)))
      (hchanges : changes (opening ++ search) = if v.missingItems = [] then []
        else (c.request? (.startLanguageBatch v.scope v.missingItems)).toList) :
      ChangesIf (before ++ (opening ++ search))
        (c.request? (.startLanguageBatch v.scope v.missingItems))
        (v.missingItems ≠ [] ∧ (follows → OpensStreamFirst c (before ++ (opening ++ search)))) := by
    rw [ChangesIf, changes_append, hquiet, List.nil_append]
    by_cases hitems : v.missingItems = []
    · exact .inl ⟨hchanges.trans (if_pos hitems), fun hall => hall.1 hitems⟩
    · exact .inr ⟨hchanges.trans (if_neg hitems), hitems, hfirst⟩
  cases follows with
  | false =>
    obtain ⟨rfl, rfl⟩ := ends_done_iff.1 hopening
    exact hsearched nofun (changes_of_ends_startSearch hsearch hprofile)
  | true =>
    have hidle := changes_of_ends_browse_connect hopening
    cases opened with
    | error f =>
      obtain ⟨rfl, rfl⟩ := ends_done_iff.1 hsearch
      rw [List.append_nil]
      refine .inl ⟨by rw [changes_append, hquiet, hidle, List.append_nil], fun hall => ?_⟩
      obtain ⟨earlier, request, reply, after, -, hparts, hstatus, -⟩ := hall.2 rfl
      have hmem : (⟨.web (.connect request), some reply⟩ : (e : Errand) × e.Outcome) ∈
          before ++ opening := by
        rw [hparts]
        exact List.mem_append_right _ (List.mem_cons_self ..)
      have hlast := (List.mem_append.1 hmem).resolve_left (hclosed request _)
      rcases ends_browse_connect hopening with ⟨rfl, -⟩ | ⟨request', reply', -, rfl, hok⟩
      · contradiction
      · cases List.mem_singleton.1 hlast
        exact nomatch hok.2 ⟨reply, rfl, hstatus⟩
    | ok _ =>
      rcases ends_browse_connect hopening with ⟨-, f, hf⟩ | ⟨request, reply, hrequest, rfl, hok⟩
      · contradiction
      · obtain ⟨r, rfl, hstatus⟩ := hok.1 rfl
        refine hsearched (fun _ => ⟨before, request, r, search, hrequest, rfl, hstatus, hquiet⟩) ?_
        rw [changes_append, hidle, changes_of_ends_startSearch hsearch hprofile, List.nil_append]

/-- After a load that has succeeded, the request for what is missing can be sent, since the same client
has been answered about the profile. -/
theorem exists_request_of_loaded {v v' : LibraryView} {s : Session} {follows : Bool}
    {before rest : Errands} {out : Except Trouble Unit} {p : LanguageProfile}
    {pages : List (Page MediaUnit)} {calls others : List ((c : Call) × c.Outcome)}
    {loading : Errands} (hcalls : Ends v.refreshAll calls v')
    (hcarried : Carried (fun call => browse (c.perform call)) calls loading)
    (hfirst : calls = ⟨.profile v.profileId, .ok p⟩ :: others) (hloaded : v.LoadedBy v' (.ok p) calls)
    (hpages : pageAnswers calls = pages.map .ok) (hquiet : changes before = [])
    (hclosed : ∀ request reply, ⟨.web (.connect request), reply⟩ ∉ before)
    (h : Ends (openAndSearch c v' s follows) rest out) :
    ∃ r, c.request? (.startLanguageBatch v.scope (itemsOn pages p)) = some r ∧
      ChangesIf (before ++ rest) (some r)
        (itemsOn pages p ≠ [] ∧ (follows → OpensStreamFirst c (before ++ rest))) := by
  have hscope : v'.scope = v.scope :=
    (congrArg LibraryView.scope (LibraryView.frame_of_ends_load hcalls)).trans rfl
  have hprofile : v'.profile ≠ none := fun hnone => nomatch hloaded.profile_eq.symm.trans hnone
  have hmem : (⟨.profile v.profileId, .ok p⟩ : (c : Call) × c.Outcome) ∈ calls := by
    rw [hfirst]
    exact List.mem_cons_self ..
  obtain ⟨r, hr⟩ := Option.isSome_iff_exists.1
    (isSome_request?_of_answered hcarried hmem (.startLanguageBatch v.scope (itemsOn pages p)))
  have hsearch := changes_of_ends_ready hquiet hclosed hprofile h
  rw [missingItems_of_loadedBy hloaded hpages, hscope, hr] at hsearch
  exact ⟨r, hr, hsearch⟩

/-- The answers to a load decide whether something is missing. -/
theorem exists_missing_iff {calls : List ((c : Call) × c.Outcome)} {p : LanguageProfile}
    {pages : List (Page MediaUnit)} (hpages : pageAnswers calls = pages.map .ok) :
    (∃ p', ∃ pages' : List (Page MediaUnit), (.ok p : Except Fault LanguageProfile) = .ok p' ∧
      pageAnswers calls = pages'.map .ok ∧ missingPairs (pages'.flatMap (·.data)) p' ≠ []) ↔
      itemsOn pages p ≠ [] := by
  rw [itemsOn, Ne, List.map_eq_nil_iff]
  constructor
  · rintro ⟨p', pages', hp, hpages', hmissing⟩
    obtain rfl := Except.ok.inj hp
    rwa [(List.map_inj_right fun _ _ => Except.ok.inj).1 (hpages.symm.trans hpages')]
  · exact fun hmissing => ⟨p, pages, rfl, hpages, hmissing⟩

/-! ### A server with one unit -/

/-- The reply of a server that has a profile with one target language. -/
theorem outcome_profile_render (id : ProfileId) :
    outcome (.profile id) (some ⟨200, Json.render
        (.arr [.num (.int 1), .str "", .str "en", .arr [.str "fr"]]), true⟩) =
      .ok { id := ⟨1⟩, sourceLanguage := "en", targetLanguages := ["fr"] } := by
  have hread : Json.read (Json.render (.arr [.num (.int 1), .str "", .str "en", .arr [.str "fr"]])) =
      some (.arr [.num (.int 1), .str "", .str "en", .arr [.str "fr"]]) :=
    Json.read_render (by simp [Json.tokens, Json.elementTokens, Json.Token.Exact])
  refine outcome_of_answer rfl ?_
  show (Json.read _).bind LanguageProfile.ofJson? = _
  rw [hread]
  rfl

/-- The reply of a server that has one unit. -/
theorem exists_outcome_page : ∃ reply page, outcome (.units 1 serverPageSize {}) reply = .ok page ∧
    page.data = [{ id := ⟨7⟩, title := "Pilot", hasFile := true }] ∧ page.totalPages = 1 := by
  let records : List Json :=
    [.obj [("id", .num (.int 7)), ("title", .str "Pilot"), ("hasFile", .bool true)]]
  have hexact : ∀ t ∈ Json.tokens (.arr records), t.Exact := by
    simp [records, Json.tokens, Json.elementTokens, Json.memberTokens, Json.Token.Exact]
  obtain ⟨page, hpage, hdata, htotal⟩ := outcome_units_of_holdsPage
    (holdsPage_render 1 hexact (by decide)) 1 serverPageSize {}
  have hunits : unitsOf records = [{ id := ⟨7⟩, title := "Pilot", hasFile := true }] := by cbv
  exact ⟨_, page, hpage, hdata.trans hunits, htotal⟩

/-- A call that has been sent is one errand. -/
theorem carried_cons_reply {call : Call} {request : Request} {reply : Option Reply}
    {out : call.Outcome} {calls : List ((c : Call) × c.Outcome)}
    (hrequest : c.request? call = some request) (hout : outcome call reply = out)
    (h : Carried (fun call => browse (c.perform call)) calls exchange) :
    Carried (fun call => browse (c.perform call)) (⟨call, out⟩ :: calls)
      (⟨.web (.send request), reply⟩ :: exchange) :=
  .cons (f := fun call => browse (c.perform call))
    (ends_browse_perform_iff.2 (.inr ⟨request, reply, hrequest, rfl, hout.symm⟩)) h

/-- The configuration for a server on the same machine. -/
def localServer : Config := { backend := { url := "http://[::1]" } }

/-- The request for a search for one pair. -/
def oneSearch : Request :=
  ⟨.post, ⟨.http, "[::1]", 80, "/api/batch", none⟩, none, none,
    some (batchBody "wanted" none (some [⟨⟨7⟩, "fr"⟩]))⟩

theorem request?_oneSearch : (Client.ofConfig localServer.backend).request?
    (.startLanguageBatch "wanted" [⟨⟨7⟩, "fr"⟩]) = some oneSearch := by cbv

/-- A library of one unit is loaded, in which one pair is missing. -/
theorem exists_ends_load :
    let c := Client.ofConfig localServer.backend
    ∃ loading v, Ends (load c (openView "wanted" none localServer)) loading (.ok v) ∧
      v.scope = "wanted" ∧ v.profile ≠ none ∧ v.missingItems = [⟨⟨7⟩, "fr"⟩] := by
  intro c
  have hsent (call : Call) : ∃ request, c.request? call = some request :=
    Option.isSome_iff_exists.1 (by rw [isSome_request? c call, request?_oneSearch]; rfl)
  let p : LanguageProfile := { id := ⟨1⟩, sourceLanguage := "en", targetLanguages := ["fr"] }
  obtain ⟨reply, page, hpage, hdata, htotal⟩ := exists_outcome_page
  obtain ⟨profileRequest, hprofileRequest⟩ := hsent (.profile ⟨1⟩)
  obtain ⟨pageRequest, hpageRequest⟩ := hsent (.units 1 serverPageSize {})
  obtain ⟨sidecarsRequest, hsidecarsRequest⟩ := hsent (.sidecars ⟨7⟩)
  have hcarried := carried_cons_reply hprofileRequest (outcome_profile_render ⟨1⟩)
    (carried_cons_reply hpageRequest hpage
      (carried_cons_reply hsidecarsRequest (show outcome (.sidecars ⟨7⟩) none = _ from rfl) .nil))
  have hwalk : Ends (LibraryView.walkPages {} [] 1) [⟨.units 1 serverPageSize {}, .ok page⟩]
      (.ok page.data) :=
    LibraryView.ends_walkPages_last fun hmore => absurd hmore.1 (by rw [htotal]; decide)
  rw [hdata] at hwalk
  obtain ⟨v, hcalls, hstatus, hv⟩ : ∃ v, Ends (openView "wanted" none localServer).refreshAll _ v ∧
      v.status = .ready ∧ v.scope = "wanted" ∧ v.profile ≠ none ∧ v.missingItems = [⟨⟨7⟩, "fr"⟩] :=
    ⟨_, ends_question_bind_iff.2 ⟨.ok p, _, rfl, ends_bind.2 ⟨_, _, _, rfl, hwalk, .ask (.done _)⟩⟩,
      rfl, rfl, nofun, by cbv⟩
  have hload : Ends (inquire c (openView "wanted" none localServer).refreshAll) _ v :=
    ends_inquire_iff.2 ⟨_, hcalls, hcarried⟩
  exact ⟨_, v, ends_load_of_ready hload hstatus, hv⟩

/-! ### The whole command -/

/-- **The command starts nothing but one search.**  It begins with a load of the whole library, for
which it asks for the profile first, and goes on only if the view is ready, that is if the profile and
all pages have come; else it says what is wrong, and fails.  At most one request of all is more than a
question to the server.  There is one exactly if the profile and all pages have come, some pair is
missing in the units on them, and the stream of job events was opened before if the search is to be
followed.  It is the request for a batch of these missing pairs. -/
theorem searchMissing_starts_only_missing {config : Config} {chosen : Option Int64} {follows : Bool}
    {out : Except Trouble Unit} (h : Ends (searchMissing config chosen follows) exchange out) :
    let c := Client.ofConfig config.backend
    ∃ (calls : List ((c : Call) × c.Outcome)) (loading rest : Errands) (v : LibraryView)
      (answer : Except Fault LanguageProfile),
      exchange = loading ++ rest ∧
      Ends (openView "wanted" chosen config).refreshAll calls v ∧
      Carried (fun call => browse (c.perform call)) calls loading ∧
      calls.head? = some ⟨.profile ⟨chosen.getD config.profileId⟩, answer⟩ ∧
      (v.status = .ready ↔ (∃ p, answer = .ok p) ∧
        ∃ pages : List (Page MediaUnit), pageAnswers calls = pages.map .ok) ∧
      (v.status ≠ .ready → (∀ e ∈ rest, ∃ text, e.1 = .warn text) ∧ ∃ t, out = .error t) ∧
      (changes exchange).length ≤ 1 ∧
      (changes exchange ≠ [] ↔
        (∃ p, ∃ pages : List (Page MediaUnit), answer = .ok p ∧ pageAnswers calls = pages.map .ok ∧
          missingPairs (pages.flatMap (·.data)) p ≠ []) ∧
        (follows → OpensStreamFirst c exchange)) ∧
      ∀ r ∈ changes exchange, ∃ p, ∃ pages : List (Page MediaUnit), answer = .ok p ∧
        pageAnswers calls = pages.map .ok ∧
        c.request? (.startLanguageBatch "wanted" (itemsOn pages p)) = some r := by
  intro c
  obtain ⟨hunits, hprofile, hscope, hid⟩ := openView_fields "wanted" chosen config
  obtain ⟨l, later, loaded, rfl, hl, hlater⟩ := ends_bind.1 h
  obtain ⟨v, loading, warning, rfl, hloading, hwarning, rfl⟩ := ends_load hl
  obtain ⟨calls, hcalls, hcarried⟩ := ends_inquire_iff.1 hloading
  obtain ⟨answer, first, others, hfirst, hloaded⟩ := LibraryView.loadedBy_of_ends_load hcalls
    fun _ _ => LibraryView.fetched_of_ends_walkPages
  obtain ⟨hquiet, hclosed⟩ := idle_of_ends_load hloading hwarning
  refine ⟨calls, loading, warning ++ later, v, answer, List.append_assoc .., hcalls, hcarried, ?_,
    hloaded.ready_iff, ?_⟩
  · rw [hfirst, hid]
    rfl
  have hready := loadTrouble?_eq_none_iff hcalls hunits hprofile
  cases htrouble : loadTrouble? v with
  | some t =>
    rw [htrouble] at hlater
    obtain ⟨rfl, rfl⟩ := ends_done_iff.1 hlater
    have hdegraded : v.status ≠ .ready := fun h => by
      rw [hready.2 h] at htrouble
      contradiction
    rw [List.append_nil, List.append_nil, hquiet]
    refine ⟨fun _ => ⟨hwarning, t, rfl⟩, Nat.zero_le _, iff_of_false (fun hne => hne rfl) ?_, nofun⟩
    rintro ⟨⟨p, pages, hp, hpages, -⟩, -⟩
    exact hdegraded (hloaded.ready_iff.2 ⟨⟨p, hp⟩, pages, hpages⟩)
  | none =>
    rw [htrouble] at hlater
    have hstatus := hready.1 htrouble
    obtain ⟨⟨p, rfl⟩, pages, hpages⟩ := hloaded.ready_iff.1 hstatus
    obtain ⟨r, hr, hsearch⟩ :=
      exists_request_of_loaded hcalls hcarried hfirst hloaded hpages hquiet hclosed hlater
    rw [hscope] at hr
    rw [exists_missing_iff hpages]
    refine ⟨fun hne => absurd hstatus hne, ?_⟩
    rcases hsearch with ⟨hnone, hnot⟩ | ⟨hone, hall⟩
    · rw [hnone]
      exact ⟨Nat.zero_le _, iff_of_false (fun hne => hne rfl) hnot, nofun⟩
    · rw [hone]
      refine ⟨Nat.le_refl _, iff_of_true (List.cons_ne_nil r []) hall, fun r' hr' => ?_⟩
      rw [List.mem_singleton.1 hr']
      exact ⟨p, pages, rfl, hpages, hr⟩

/-- What is missing in a library of one unit is searched for once, after the stream has been opened;
the search gets no reply. -/
theorem searchMissing_starts_only_missing_once :
    ∃ exchange out, Ends (searchMissing localServer none true) exchange out ∧
      changes exchange = [oneSearch] ∧
      OpensStreamFirst (.ofConfig localServer.backend) exchange := by
  let c := Client.ofConfig localServer.backend
  obtain ⟨loading, v, hload, hscope, hprofile, hitems⟩ := exists_ends_load
  obtain ⟨stream, hstream⟩ : ∃ request, c.prepare? streamWish = some request :=
    Option.isSome_iff_exists.1 (by cbv)
  have hconnect : Ends (browse c.connect) [⟨.web (.connect stream), some ⟨200, [], true⟩⟩]
      (.ok ()) := by
    rw [Client.connect, hstream]
    exact .ask (.done _)
  have hasked : Ends (v.searchMissing .empty)
      [⟨.startLanguageBatch "wanted" [⟨⟨7⟩, "fr"⟩], outcome _ none⟩]
      (v.takeBatch .empty "search" (outcome (.startLanguageBatch "wanted" [⟨⟨7⟩, "fr"⟩]) none)) := by
    rw [LibraryView.searchMissing, hscope, hitems,
      if_neg (mt Option.isNone_iff_eq_none.1 hprofile), if_neg (List.cons_ne_nil _ _)]
    exact .ask (.done _)
  have hsearch := ends_inquire_iff.2 ⟨_, hasked, carried_cons_reply request?_oneSearch rfl .nil⟩
  have hstart : ∃ rest out, Ends (startSearch c v { config := localServer } true)
      (⟨.web (.send oneSearch), none⟩ :: rest) out :=
    ⟨_, _, ends_bind.2 ⟨[_], _, _, rfl, hsearch, .ask (x := ()) (.done _)⟩⟩
  obtain ⟨rest, out, hstart⟩ := hstart
  let exchange : Errands := loading ++ ([⟨.web (.connect stream), some ⟨200, [], true⟩⟩] ++
    ⟨.web (.send oneSearch), none⟩ :: rest)
  have h : Ends (searchMissing localServer none true) exchange out :=
    ends_bind.2 ⟨_, _, _, rfl, hload, ends_bind.2 ⟨_, _, _, rfl, hconnect, hstart⟩⟩
  have hmem : oneSearch ∈ changes exchange :=
    List.mem_filterMap.2 ⟨⟨.web (.send oneSearch), none⟩, by simp [exchange], rfl⟩
  obtain ⟨_, _, _, _, _, -, -, -, -, -, -, hone, hiff, -⟩ := searchMissing_starts_only_missing h
  refine ⟨exchange, out, h, ?_, (hiff.1 (List.ne_nil_of_mem hmem)).2 rfl⟩
  obtain ⟨r, hr⟩ := List.length_eq_one_iff.1
    (Nat.le_antisymm hone (List.length_pos_of_mem hmem))
  rw [hr] at hmem ⊢
  rw [List.mem_singleton.1 hmem]

end SubtitleCoverage.CommandLine
