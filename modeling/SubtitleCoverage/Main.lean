import Std.Async.DNS
import Std.Async.TCP
import SubtitleCoverage.Clock
import SubtitleCoverage.CommandLine.Program
import SubtitleCoverage.Http.Message

/-!
# Running the program

The outer layer of the program: it carries out the errands of `CommandLine.program` with the files
and the network of the system.
-/

namespace SubtitleCoverage

open CommandLine Http Std.Async Std.Net

/-- The stream that is open. -/
structure OpenStream where
  socket : TCP.Socket.Client
  head : Head
  /-- Bytes that have arrived and have not been handed on. -/
  unread : Text.Bytes
  /-- How many bytes of the body have been handed on. -/
  taken : Nat := 0
  /-- When news of the stream was last held back, in nanoseconds. -/
  silentAt : Nat

/-- How long the stream brings news without a pause. -/
def pauseAfter : Nat := seconds 1

/-- The addresses of a server in the network. -/
def lookUp (a : Address) : IO (List SocketAddress) := do
  let ips ← (DNS.getAddrInfo a.host "").block
  let port := UInt16.ofNat a.port
  return ips.toList.map fun
    | .v4 ip => .v4 ⟨ip, port⟩
    | .v6 ip => .v6 ⟨ip, port⟩

/-- Connects to the first of some addresses that accepts. -/
def connectAny : List SocketAddress → IO TCP.Socket.Client
  | [] => throw (IO.userError "no connection")
  | a :: as => do
    let socket ← TCP.Socket.Client.mk
    try
      (socket.connect a).block
      return socket
    catch _ => connectAny as

/-- Takes the bytes that arrive next; none at the end of the connection. -/
def receive (socket : TCP.Socket.Client) : IO (Option Text.Bytes) := do
  return ((← (socket.recv? 65536).block).map ByteArray.toList)

/-- Waits for the head of a reply after some bytes. -/
partial def receiveHead (socket : TCP.Socket.Client) (bytes : Text.Bytes) :
    IO (Head × Text.Bytes) := do
  match Head.ofBytes? bytes with
  | some found => return found
  | none =>
    match ← receive socket with
    | some more => receiveHead socket (bytes ++ more)
    | none => throw (IO.userError "no reply")

/-- Waits for the rest of a body after some bytes. -/
partial def receiveBody (socket : TCP.Socket.Client) (head : Head) (bytes : Text.Bytes) :
    IO Text.Bytes := do
  if head.length.isSome && head.isMet bytes then return bytes
  match ← (try receive socket catch _ => pure none) with
  | some more => receiveBody socket head (bytes ++ more)
  | none => return bytes

/-- Sends a request and waits for the head of its reply. -/
def start (r : Request) : IO (TCP.Socket.Client × Head × Text.Bytes) := do
  if r.address.scheme ≠ .http then throw (IO.userError "no secure connections")
  let socket ← connectAny (← lookUp r.address)
  (socket.send (ByteArray.mk r.bytes.toArray)).block
  let (head, bytes) ← receiveHead socket []
  return (socket, head, bytes)

/-- Takes the next news of a stream. -/
def nextNews (s : OpenStream) (now : Nat) : IO (StreamNews × OpenStream) := do
  if s.silentAt + pauseAfter ≤ now then return (.silence, { s with silentAt := now })
  let arrived ← if s.unread = [] then (try receive s.socket catch _ => pure none)
    else pure (some s.unread)
  match arrived with
  | some bytes => return (.piece bytes, { s with unread := [], taken := s.taken + bytes.length })
  | none => return (if s.head.length.all (· ≤ s.taken) then .closed else .interrupted, s)

/-- Carries out an action on the web. -/
def act (stream : IO.Ref (Option OpenStream)) : (a : Action) → IO a.Outcome
  | .send r => do
    try
      let (socket, head, bytes) ← start r
      return some (head.reply (← receiveBody socket head bytes))
    catch _ => return none
  | .connect r => do
    try
      let (socket, head, bytes) ← start r
      if isSuccess head.status then
        stream.set (some ⟨socket, head, bytes, 0, ← IO.monoNanosNow⟩)
        return some ⟨head.status, [], true⟩
      else return some (head.reply (← receiveBody socket head bytes))
    catch _ => return none
  | .listen => do
    match ← stream.get with
    | none => return .closed
    | some s =>
      let (news, s) ← nextNews s (← IO.monoNanosNow)
      stream.set (some s)
      return news

/-- The number of a fault as the system counts faults. Some calls report it with a minus. -/
def systemCode (code : UInt32) : UInt32 := if code < 0x80000000 then code else 0 - code

/-- Why the system could not read a file. -/
def fileFault : IO.Error → FileFault
  | .noFileOrDirectory .. => .missing
  | .inappropriateType _ code _ => if systemCode code = 20 then .notDirectory else .isDirectory
  | .permissionDenied .. => .stated "Permission denied (os error 13)"
  | e@(.invalidArgument _ code _) =>
    if systemCode code = 36 then .nameTooLong else .stated (toString e)
  | e => .stated (toString e)

/-- Reads a file. -/
def readBytes (path : String) : IO (Except FileFault Text.Bytes) := do
  if path.contains '\x00' then return .error .nulInName
  try
    return .ok (← IO.FS.readBinFile path).toList
  catch e => return .error (fileFault e)

/-- Carries out an errand. -/
def carryOutErrand (stream : IO.Ref (Option OpenStream)) : (e : Errand) → IO e.Outcome
  | .web a => act stream a
  | .home => IO.getEnv "HOME"
  | .isFile path => return (← readBytes path).toBool
  | .readFile path => readBytes path
  | .print text => do
    let out ← IO.getStdout
    out.putStr text
    out.flush
  | .warn text => IO.eprint text

end SubtitleCoverage

/-- The program. -/
def main (words : List String) : IO UInt32 := do
  let stream ← IO.mkRef none
  (SubtitleCoverage.CommandLine.program words).run (SubtitleCoverage.carryOutErrand stream)
