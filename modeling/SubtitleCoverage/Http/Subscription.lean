import SubtitleCoverage.Http.Client
import SubtitleCoverage.Jobs.Bus

/-!
# Subscribing to job events

The stream of job events is read piece by piece for as long as it lasts, and every event is
published on a bus.

## Main definitions

* `takeNews` — the events that come with some news of the stream.
* `Client.subscribe` — the events of the stream on a bus.
-/

namespace SubtitleCoverage.Http

/-- How often more of a stream is waited for at most; no stream lasts as long. -/
def listenLimit : Nat := UInt64.size

/-- The events that come with some news of the stream, and the decoder after them. -/
def takeNews (d : StreamDecoder) : StreamNews → List JobEvent × StreamDecoder
  | .piece bytes => d.push bytes
  | .closed =>
    let (event, d) := d.finish
    (event.toList, d)
  | .silence | .interrupted => ([], d)

/-- Publishes what is left of the stream on a bus, until it ends. -/
def publishStream : Nat → StreamDecoder → Bus → Browsing (Except Fault Unit × Bus)
  | 0, _, bus => .done (.ok (), bus)
  | count + 1, d, bus =>
    .ask Action.listen fun news =>
      let (events, d) := takeNews d news
      let bus := events.foldl Bus.publish bus
      match news with
      | .closed => .done (.ok (), bus)
      | .interrupted => .done (.error interruption, bus)
      | .piece _ | .silence => publishStream count d bus

/-- Opens the stream of job events and publishes all of them on a bus. -/
def Client.subscribe (c : Client) (bus : Bus) : Browsing (Except Fault Unit × Bus) := do
  match ← c.connect with
  | .error f => return (.error f, bus)
  | .ok () => publishStream listenLimit .start bus

end SubtitleCoverage.Http
