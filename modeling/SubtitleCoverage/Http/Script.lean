import SubtitleCoverage.Http.Exchange
import SubtitleCoverage.Text.Utf8

/-!
# A server that follows a script

A server that follows a script shows what a client does with its replies. For every route the script
holds the replies to give, one after the other; the last one is given again and again. Requests to
other servers have no reply.

## Main definitions

* `Route` — a route with its replies.
* `Script` — the routes, and the requests so far.
* `Script.answer` — what comes of an action.
-/

namespace SubtitleCoverage.Http

/-- A route with the replies that it is still to give. -/
structure Route where
  method : String
  path : String
  replies : List Reply

/-- A server that follows a script. -/
structure Script where
  host : String
  routes : List Route := []
  /-- The requests so far, the latest first. -/
  requests : List Request := []
  /-- What is left of the stream opened last. -/
  stream : List StreamNews := []

/-- A reply as it arrives: some statuses have no body. -/
def Reply.delivered (r : Reply) : Reply :=
  if r.status = 204 || r.status = 304 then { r with body := [], isComplete := true } else r

/-- The news of a stream that a reply brings. -/
def Reply.news (r : Reply) : List StreamNews :=
  [.piece r.body, if r.isComplete then .closed else .interrupted]

namespace Script

/-- The replies after the first one; the last one stays. -/
def later : List Reply → List Reply
  | _ :: r :: rs => r :: rs
  | rs => rs

/-- Whether a request belongs to a route. -/
def isFor (r : Request) (route : Route) : Bool :=
  route.method == r.method.name && route.path == r.address.path

/-- The reply to a request, and the routes after it. -/
def give (r : Request) : List Route → Reply × List Route
  | [] => (⟨404, [], true⟩, [])
  | route :: routes =>
    if isFor r route then
      ((route.replies.head?.getD ⟨404, [], true⟩).delivered,
        { route with replies := later route.replies } :: routes)
    else
      let (reply, routes) := give r routes
      (reply, route :: routes)

/-- Whether a request reaches the server. -/
def isReached (s : Script) (r : Request) : Bool :=
  r.address.scheme = .http && r.address.host = s.host && r.address.port = Scheme.http.port

/-- The reply to a request, if it reaches the server. -/
def reply? (s : Script) (r : Request) : Option Reply × Script :=
  if s.isReached r then
    let (reply, routes) := give r s.routes
    (some reply, { s with routes, requests := r :: s.requests })
  else (none, s)

/-- What comes of an action. -/
def answer : (a : Action) → Script → a.Outcome × Script
  | .send r, s => s.reply? r
  | .connect r, s =>
    match s.reply? r with
    | (none, s) => (none, s)
    | (some reply, s) => (some reply, { s with stream := reply.news })
  | .listen, s => (s.stream.head?.getD .closed, { s with stream := s.stream.drop 1 })

end Script

end SubtitleCoverage.Http
