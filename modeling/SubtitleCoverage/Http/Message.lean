import SubtitleCoverage.Http.Exchange
import SubtitleCoverage.Json.Writer
import SubtitleCoverage.Text.Blank

/-!
# Messages on the wire

How a request is written for a server, and how the beginning of its reply is read. The requests ask
for the oldest protocol that is still in use, so that a body goes on until the connection is closed
or its announced length is reached.

## Main definitions

* `Request.bytes` — a request as it is sent.
* `Head`, `Head.ofBytes?` — the part of a reply before its body.
* `Head.reply` — a reply of which the body has arrived.
-/

namespace SubtitleCoverage.Http

open Text

/-! ### Requests -/

/-- The name of the server as it stands in a request. -/
def Address.authority (a : Address) : String :=
  if a.port = a.scheme.port then a.host else a.host ++ ":" ++ decimal a.port

/-- What is asked of the server. -/
def Address.target (a : Address) : String :=
  a.path ++ (match a.query with
    | some query => "?" ++ query
    | none => "")

/-- The headers of a request. -/
def Request.headers (r : Request) (body : Bytes) : List (String × String) :=
  [("Host", r.address.authority), ("Connection", "close"), ("Accept", r.accept.getD "*/*")] ++
    (match r.apiKey with
      | some key => [("X-Api-Key", key)]
      | none => []) ++
    if r.body.isSome then
      [("Content-Type", "application/json"), ("Content-Length", decimal body.length)]
    else []

/-- A request as it is sent. -/
def Request.bytes (r : Request) : Bytes :=
  let body := (r.body.map Json.render).getD []
  utf8Bytes (r.method.name ++ " " ++ r.address.target ++ " HTTP/1.0\r\n" ++
    String.join ((r.headers body).map fun h => h.1 ++ ": " ++ h.2 ++ "\r\n") ++ "\r\n") ++ body

/-! ### Replies -/

/-- The part of a reply before its body. -/
structure Head where
  status : UInt16
  /-- The length of the body, if it is announced. -/
  length : Option Nat := none
deriving DecidableEq, Repr

/-- The bytes up to a blank line, and those after it. -/
def splitHead : Bytes → Bytes → Option (Bytes × Bytes)
  | before, 0x0D :: 0x0A :: 0x0D :: 0x0A :: rest => some (before.reverse, rest)
  | before, b :: rest => splitHead (b :: before) rest
  | _, [] => none

/-- The name and the value of a header. -/
def headerOfLine (line : String) : String × String :=
  let cs := line.toList
  (String.ofList ((cs.takeWhile (· ≠ ':')).map Char.toLower),
    String.ofList (trimChars ((cs.dropWhile (· ≠ ':')).drop 1)))

/-- The status in the first line of a reply. -/
def statusOfLine? (line : String) : Option UInt16 := do
  let [version, status] := (line.splitOn " ").take 2 | none
  guard (version.startsWith "HTTP/1.")
  let ds ← status.toList.mapM digitValue?
  if ds.length = 3 then some (UInt16.ofNat (ofDigits ds)) else none

/-- The head of a reply and what has arrived of its body, if the head is there as a whole. -/
def Head.ofBytes? (bytes : Bytes) : Option (Head × Bytes) := do
  let (head, rest) ← splitHead [] bytes
  let lines := (utf8Text head).splitOn "\r\n"
  let headers := (lines.drop 1).map headerOfLine
  return (⟨← statusOfLine? (lines.headD ""),
    ((headers.lookup "content-length").bind fun s => (readUInt64 s).toOption).map (·.toNat)⟩, rest)

/-- Whether a body has arrived as a whole when the connection is closed. -/
def Head.isMet (h : Head) (body : Bytes) : Bool := h.length.all (· ≤ body.length)

/-- The reply with a body that has arrived. -/
def Head.reply (h : Head) (body : Bytes) : Reply :=
  ⟨h.status, match h.length with
    | some n => body.take n
    | none => body, h.isMet body⟩

end SubtitleCoverage.Http
