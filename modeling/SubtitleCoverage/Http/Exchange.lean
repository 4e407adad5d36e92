import SubtitleCoverage.Backend.Dialogue
import SubtitleCoverage.Http.Address
import SubtitleCoverage.Http.Status
import SubtitleCoverage.Json.Value

/-!
# Requests and replies

A program on the web sends requests and gets replies, or fails to. A reply may also be a stream:
then its body arrives in pieces for as long as the server likes.

## Main definitions

* `Request`, `Reply` — what is sent, and what comes back.
* `StreamNews` — what comes of waiting for more of a stream.
* `Action` — the things that a program on the web does, with `Action.Outcome`.
-/

namespace SubtitleCoverage.Http

/-- What is to be done with the thing at an address. -/
inductive Method where
  | get
  | put
  | post
  | delete
deriving DecidableEq, Repr

/-- The name of a method. -/
def Method.name : Method → String
  | .get => "GET"
  | .put => "PUT"
  | .post => "POST"
  | .delete => "DELETE"

/-- A request. -/
structure Request where
  method : Method
  address : Address
  /-- The key by which the server knows its user. -/
  apiKey : Option String := none
  /-- The form in which a reply is wanted; any if nothing is said. -/
  accept : Option String := none
  body : Option Json := none

/-- A reply. -/
structure Reply where
  status : UInt16
  body : Text.Bytes := []
  /-- Whether the whole body has arrived. -/
  isComplete : Bool := true
deriving DecidableEq, Repr

/-- The body of a reply, if the whole of it has arrived. -/
def Reply.wholeBody? (r : Reply) : Option Text.Bytes := if r.isComplete then some r.body else none

/-- What comes of waiting for more of a stream. -/
inductive StreamNews where
  | piece (bytes : Text.Bytes)
  /-- Nothing has come for a while. -/
  | silence
  /-- The stream has come to its end. -/
  | closed
  /-- The stream has broken off. -/
  | interrupted
deriving DecidableEq, Repr

/-- What a program on the web does. -/
inductive Action where
  /-- Sends a request and waits for the whole reply. -/
  | send (r : Request)
  /-- Sends a request for a stream. If it succeeds, the body of the reply is yet to come. -/
  | connect (r : Request)
  /-- Waits for more of the stream. -/
  | listen

/-- What comes of an action. A request that cannot be sent or is not answered has no reply. -/
def Action.Outcome : Action → Type
  | .send _ | .connect _ => Option Reply
  | .listen => StreamNews

end SubtitleCoverage.Http
