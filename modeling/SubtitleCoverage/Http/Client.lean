import SubtitleCoverage.Backend.Wire
import SubtitleCoverage.Config
import SubtitleCoverage.Http.Exchange
import SubtitleCoverage.Jobs.Stream
import SubtitleCoverage.Json.Reader

/-!
# The backend on the web

The backend is a server on the web. Every call is one request, and its reply says what has come of
it. A record in a list that cannot be read does not hide the others.

## Main definitions

* `Client` — where the server is, and the key for it.
* `Client.request?` — the request of a call.
* `outcome` — what a reply to a call means.
* `Client.perform` — a call as a dialogue of requests.
* `Client.connect` — the stream of job events.
-/

namespace SubtitleCoverage.Http

open Json Text

/-- Where the server is, and the key for it. -/
structure Client where
  /-- The address under which everything is found. -/
  base : String
  apiKey : Option String := none
deriving DecidableEq, Repr

/-- A text without slashes at its end. -/
def dropSlashes (s : String) : String :=
  String.ofList (s.toList.reverse.dropWhile (· = '/')).reverse

/-- The client that a configuration asks for. An empty key is none. -/
def Client.ofConfig (c : BackendConfig) : Client :=
  ⟨dropSlashes c.url, c.apiKey.filter (· ≠ "")⟩

/-! ### Requests -/

/-- What is asked of a server, apart from where it is. -/
structure Wish where
  method : Method
  path : String
  query : List (String × String) := []
  accept : Option String := none
  body : Option Json := none

/-- Whether a key can be sent. -/
def isSendable (key : String) : Bool :=
  key.toList.all fun c => c = '\t' || (0x20 ≤ c.toNat && c.toNat ≠ 0x7F)

/-- The request for a wish, if the server has a proper address and the key can be sent. -/
def Client.prepare? (c : Client) (w : Wish) : Option Request := do
  guard (c.apiKey.all isSendable)
  let address ← Address.ofText? (c.base ++ "/api" ++ w.path)
  return ⟨w.method, address.withQuery w.query, c.apiKey, w.accept, w.body⟩

/-- A condition as a part of a query. -/
def pairIfSome {α : Type} (name : String) (text : α → String) :
    Option α → List (String × String)
  | none => []
  | some a => [(name, text a)]

/-- A truth value in a query. -/
def boolText (b : Bool) : String := if b then "true" else "false"

/-- The query for a page of units. -/
def pageQuery (page pageSize : UInt32) (f : MediaFilters) : List (String × String) :=
  [("page", decimal page.toNat), ("pageSize", decimal pageSize.toNat)] ++
    pairIfSome "hasFile" boolText f.hasFile ++ pairIfSome "status" MediaStatus.name f.status ++
    pairIfSome "seriesId" (fun n => decimal n.toInt) f.seriesId

/-- The body of a request for a batch. -/
def batchBody (scope : String) (ids : Option (List MediaUnitId))
    (items : Option (List BatchItem)) : Json :=
  .obj ([("scope", .str scope)] ++ memberIfSome "ids" (ofList MediaUnitId.toJson) ids ++
    memberIfSome "items" (ofList BatchItem.toJson) items)

/-- What is asked of the server by a call. -/
def wish : Call → Wish
  | .units page pageSize filters =>
    { method := .get, path := "/media", query := pageQuery page pageSize filters }
  | .sidecars id => { method := .get, path := "/media/" ++ id.text ++ "/subtitles" }
  | .profile id => { method := .get, path := "/profiles/" ++ id.text }
  | .setStatus id status =>
    { method := .put, path := "/media/" ++ id.text ++ "/status",
      body := some (.obj [("status", status.toJson)]) }
  | .blacklist entry => { method := .post, path := "/blacklist", body := some entry.toJson }
  | .deleteSidecar path => { method := .delete, path := "/subtitles", query := [("path", path)] }
  | .startBatch scope ids =>
    { method := .post, path := "/batch", body := some (batchBody scope ids none) }
  | .startLanguageBatch scope items =>
    { method := .post, path := "/batch", body := some (batchBody scope none (some items)) }

/-- The request of a call. -/
def Client.request? (c : Client) (call : Call) : Option Request := c.prepare? (wish call)

/-! ### Replies -/

/-- What a call is about, as far as the wording of faults goes. -/
def purpose : Call → String
  | .units .. => "media units"
  | .sidecars _ => "sidecars"
  | .profile _ => "language profile"
  | .setStatus .. => "set status"
  | .blacklist _ => "blacklist"
  | .deleteSidecar _ => "delete sidecar"
  | .startBatch .. | .startLanguageBatch .. => "start batch"

/-- The fault of a call that could not be carried out for a reason. -/
def failure (c : Call) (reason : String) : Fault :=
  match c with
  | .units .. | .sidecars _ | .profile _ => .query (purpose c) reason
  | _ => .mutation (purpose c) reason

/-- Why a request without a reply has failed. -/
def unreachable : String := "the backend cannot be reached"

/-- Why a reply is of no use. -/
def unreadable : String := "the answer of the backend cannot be read"

/-- The fault that a reply without success tells of. -/
def refusal (r : Reply) : Fault :=
  let text := utf8Text (r.wholeBody?.getD [])
  .http r.status (if isBlankText text then (reason? r.status).getD "request failed" else text)

/-- A reply that means success, or the fault. -/
def accepted (failed : String → Fault) : Option Reply → Except Fault Reply
  | none => .error (failed unreachable)
  | some r => if isSuccess r.status then .ok r else .error (refusal r)

/-- The records among the elements of a list that stands `outer` levels deep in a text. All elements
have to be kept as a whole before they are read; those that are no records are passed over. -/
def salvage? {α : Type} (outer : Nat) (decode : Json → Option α) : Json → Option (List α)
  | .arr xs =>
    if xs.all fun x => x.fits (126 - outer) then some (xs.filterMap fun x => decode x.collapse)
    else none
  | _ => none

/-- The page of units in a reply. -/
def unitPage? (j : Json) : Option (Page MediaUnit) := do
  let r ← fields? ["data", "total", "page", "totalPages"] j
  return {
    data := ← r.withDefault "data" [] (salvage? 1 MediaUnit.ofJson?)
    total := ← r.withDefault "total" 0 asUInt64?
    page := ← r.withDefault "page" 1 asUInt32?
    totalPages := ← r.withDefault "totalPages" 0 asUInt32? }

/-- The answer to a call in a reply that means success. -/
def answer? (c : Call) (r : Reply) : Option c.Answer :=
  let json := r.wholeBody?.bind Json.read
  match c with
  | .units .. => json.bind unitPage?
  | .sidecars _ => json.bind (salvage? 0 Sidecar.ofJson?)
  | .profile _ => json.bind LanguageProfile.ofJson?
  | .setStatus .. | .blacklist _ | .deleteSidecar _ => some ()
  | .startBatch .. | .startLanguageBatch .. => json.bind BatchStarted.ofJson?

/-- The fault of a call, where the server does not know the profile asked for. -/
def named : Call → Fault → Fault
  | .profile id, .http 404 _ => .notFound "profile" id.text
  | _, f => f

/-- What a reply to a call means. -/
def outcome (c : Call) (r : Option Reply) : c.Outcome :=
  match accepted (failure c) r with
  | .error f => .error (named c f)
  | .ok r =>
    match answer? c r with
    | some a => .ok a
    | none => .error (failure c unreadable)

/-! ### Dialogues -/

/-- A dialogue on the web. -/
abbrev Browsing (α : Type) : Type := Dialogue Action.Outcome α

/-- Sends a request, if there is one. -/
def sendIfAny : Option Request → Browsing (Option Reply)
  | none => .done none
  | some r => .question (Action.send r)

/-- A call as a dialogue on the web. -/
def Client.perform (c : Client) (call : Call) : Browsing call.Outcome := do
  return outcome call (← sendIfAny (c.request? call))

/-- The wish for the stream of job events. -/
def streamWish : Wish := { method := .get, path := "/events", accept := some "text/event-stream" }

/-- Opens the stream of job events. -/
def Client.connect (c : Client) : Browsing (Except Fault Unit) := do
  let reply ← match c.prepare? streamWish with
    | none => pure none
    | some r => Dialogue.question (Action.connect r)
  return (accepted (fun reason => .channel ("connect failed: " ++ reason)) reply).map fun _ => ()

/-- The fault of a stream that has broken off. -/
def interruption : Fault := .channel ("stream interrupted: " ++ unreadable)

end SubtitleCoverage.Http
