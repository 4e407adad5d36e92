import SubtitleCoverage.Jobs.Broadcast
import SubtitleCoverage.Jobs.Event
import SubtitleCoverage.Text.Decimal

/-!
# The bus of job events

Events of batch jobs are published on a bus. It hands them to its receivers and remembers the latest
for those that come later.

## Main definitions

* `Bus` — the buses, with `publish` and `recentEvents`.
-/

namespace SubtitleCoverage

/-- How many events a bus remembers. -/
def rememberedEvents : Nat := 100

/-- How many events a bus keeps for its receivers if nothing else is asked for. -/
def defaultBusCapacity : Nat := 256

/-- How many events a bus can keep for its receivers. Twice as many, the next number of places that
a channel has, would need `2 ^ 63` bytes at 64 bytes an event, and no memory has so many. -/
def maxBusCapacity : Nat := Nat.pow 2 56

/-- A bus of job events. -/
structure Bus where
  channel : Broadcast JobEvent := .ofCapacity defaultBusCapacity
  /-- The latest events, newest first. -/
  recent : List JobEvent := []

namespace Bus

/-- The bus with the capacity that is not asked for. -/
def default : Bus := {}

/-- A bus that keeps `capacity` events for its receivers; it has to keep some, and not more than
any memory holds. -/
def ofCapacity? (capacity : Nat) : Option Bus :=
  if capacity = 0 || maxBusCapacity < capacity then none
  else some { channel := .ofCapacity capacity }

/-- Publishes an event. -/
def publish (b : Bus) (e : JobEvent) : Bus :=
  { channel := b.channel.send e
    recent := e :: if rememberedEvents ≤ b.recent.length then b.recent.dropLast else b.recent }

/-- The latest `n` events, newest first, as far as they are remembered. -/
def recentEvents (b : Bus) (n : Nat) : List JobEvent := b.recent.take n

/-- Adds a receiver. -/
def subscribe (b : Bus) : Nat × Bus :=
  let (receiver, channel) := b.channel.subscribe
  (receiver, { b with channel })

/-- Removes a receiver. -/
def unsubscribe (b : Bus) (receiver : Nat) : Bus :=
  { b with channel := b.channel.unsubscribe receiver }

/-- What a receiver gets next. -/
def receive (b : Bus) (receiver : Nat) : Received JobEvent × Bus :=
  let (received, channel) := b.channel.receive receiver
  (received, { b with channel })

/-- A bus in diagnostics. -/
def describe (b : Bus) : String :=
  "EventBus \x7b subscribers: " ++ Text.decimal b.channel.receiverCount ++ ", recent: " ++
    Text.decimal b.recent.length ++ " \x7d"

end Bus

end SubtitleCoverage
