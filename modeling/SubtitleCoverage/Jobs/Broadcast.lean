import SubtitleCoverage.OrderedMap

/-!
# Broadcasting

A broadcast hands every message to every receiver that subscribed before it was sent. Only the
latest messages are kept; a receiver that falls too far behind is told how many it has lost and
goes on with the oldest one kept.

## Main definitions

* `Broadcast` — the messages kept and the receivers, with `send`, `subscribe`, `receive`.
* `Received` — what a receiver gets.
-/

namespace SubtitleCoverage

/-- Receivers are numbered in the order in which they subscribed. -/
instance : KeyOrder Nat := .ofInt (fun n => n) fun _ _ h => Int.ofNat.inj h

/-- A channel that hands messages to receivers. -/
structure Broadcast (α : Type) where
  /-- How many messages are kept. -/
  capacity : Nat
  /-- The messages kept, the latest first. -/
  kept : List α := []
  /-- How many messages were sent. -/
  sent : Nat := 0
  /-- By receiver, how many of the messages sent it has behind it. -/
  receivers : OrderedMap Nat Nat := .empty
  /-- How many receivers have subscribed. -/
  subscribed : Nat := 0

/-- What a receiver gets. -/
inductive Received (α : Type) where
  | message (a : α)
  /-- There is no message. -/
  | empty
  /-- So many messages were lost. -/
  | lagged (count : Nat)
  /-- There is no such receiver. -/
  | closed
deriving Repr

namespace Broadcast

variable {α : Type}

/-- The smallest power of two that is not less than a number, given one that may be. -/
def powerFrom (n : Nat) : Nat → Nat → Nat
  | 0, p => p
  | fuel + 1, p => if n ≤ p then p else powerFrom n fuel (2 * p)

/-- The smallest power of two that is not less than a number. -/
def roundedCapacity (n : Nat) : Nat := powerFrom n n 1

/-- A channel that keeps `capacity` messages, or somewhat more. -/
def ofCapacity (capacity : Nat) : Broadcast α := { capacity := roundedCapacity capacity }

/-- Sends a message. -/
def send (c : Broadcast α) (a : α) : Broadcast α :=
  { c with kept := (a :: c.kept).take c.capacity, sent := c.sent + 1 }

/-- Adds a receiver of the messages that are yet to come. -/
def subscribe (c : Broadcast α) : Nat × Broadcast α :=
  (c.subscribed,
    { c with receivers := c.receivers.insert c.subscribed c.sent, subscribed := c.subscribed + 1 })

/-- Removes a receiver. -/
def unsubscribe (c : Broadcast α) (receiver : Nat) : Broadcast α :=
  { c with receivers := c.receivers.erase receiver }

/-- How many receivers there are. -/
def receiverCount (c : Broadcast α) : Nat := c.receivers.size

/-- The channel after a receiver has `count` messages behind it. -/
def advance (c : Broadcast α) (receiver count : Nat) : Broadcast α :=
  { c with receivers := c.receivers.insert receiver count }

/-- What a receiver gets next. -/
def receive (c : Broadcast α) (receiver : Nat) : Received α × Broadcast α :=
  match c.receivers.get? receiver with
  | none => (.closed, c)
  | some count =>
    let oldest := c.sent - c.capacity
    if count < oldest then (.lagged (oldest - count), c.advance receiver oldest)
    else if c.sent ≤ count then (.empty, c)
    else
      match c.kept[c.sent - count - 1]? with
      | some a => (.message a, c.advance receiver (count + 1))
      | none => (.empty, c)

/-- The messages that a receiver gets up to the last one sent, passing over those lost; `fuel`
bounds how many there are. -/
def drainUpTo : Nat → Broadcast α → Nat → List α × Broadcast α
  | 0, c, _ => ([], c)
  | fuel + 1, c, receiver =>
    match c.receive receiver with
    | (.message a, c) =>
      let (as, c) := drainUpTo fuel c receiver
      (a :: as, c)
    | (.lagged _, c) => drainUpTo fuel c receiver
    | (.empty, c) | (.closed, c) => ([], c)

/-- The messages that a receiver gets up to the last one sent, passing over those lost. -/
def drain (c : Broadcast α) (receiver : Nat) : List α × Broadcast α :=
  drainUpTo (c.sent + 2) c receiver

end Broadcast

end SubtitleCoverage
