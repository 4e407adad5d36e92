import Mathlib.Algebra.Order.Ring.Nat
import SubtitleCoverage.Jobs.Broadcast

/-!
# What a channel promises to a receiver

A receiver gets the messages sent after it has subscribed, in order and each once, as long as it is
never further behind than the channel keeps messages.  Nothing else about the channel is needed by
those who take messages off it.

## Main definitions

* `Broadcast.Awaits c receiver unread` — the messages that a receiver is to get next.
* `Broadcast.behind c receiver` — how many messages a receiver has not got yet.

## Main results

* `awaits_subscribe` — a new receiver awaits no message.
* `Awaits.send` — a message that is sent joins those awaited, if there is room for it.
* `Awaits.receive` — **the first of the messages awaited is the next one received**.
-/

namespace SubtitleCoverage

namespace Broadcast

variable {α : Type} {c : Broadcast α} {receiver : Nat}

/-- A receiver is to get some messages next, the oldest first: they are the last ones sent, and the
channel still keeps all of them. -/
def Awaits (c : Broadcast α) (receiver : Nat) (unread : List α) : Prop :=
  c.receivers.get? receiver = some (c.sent - unread.length) ∧ unread.length ≤ c.sent ∧
    unread.length ≤ c.capacity ∧ c.kept.take unread.length = unread.reverse

/-- How many messages a receiver has not got yet. -/
def behind (c : Broadcast α) (receiver : Nat) : Nat :=
  ((c.receivers.get? receiver).map fun count => c.sent - count).getD 0

theorem Awaits.behind_eq {unread : List α} (h : c.Awaits receiver unread) :
    c.behind receiver = unread.length := by
  obtain ⟨hcount, hsent, -, -⟩ := h
  rw [behind, hcount, Option.map_some, Option.getD_some]
  omega

/-- A new receiver awaits no message. -/
theorem awaits_subscribe (c : Broadcast α) : c.subscribe.2.Awaits c.subscribe.1 [] := by
  refine ⟨?_, Nat.zero_le _, Nat.zero_le _, List.take_zero⟩
  show (c.receivers.insert c.subscribed c.sent).get? c.subscribed = some c.sent
  rw [OrderedMap.get?_insert, if_pos rfl]

/-- **A message that is sent joins those awaited**, if there is room for it. -/
theorem Awaits.send {unread : List α} (h : c.Awaits receiver unread)
    (hroom : unread.length < c.capacity) (a : α) : (c.send a).Awaits receiver (unread ++ [a]) := by
  obtain ⟨hcount, hsent, -, hkept⟩ := h
  have hlength : (unread ++ [a]).length = unread.length + 1 := by
    rw [List.length_append, List.length_singleton]
  rw [Awaits, hlength]
  refine ⟨?_, Nat.succ_le_succ hsent, hroom, ?_⟩
  · show c.receivers.get? receiver = some (c.sent + 1 - (unread.length + 1))
    rw [Nat.add_sub_add_right, hcount]
  · show ((a :: c.kept).take c.capacity).take (unread.length + 1) = _
    rw [List.take_take, Nat.min_eq_left hroom, List.take_succ_cons, hkept, List.reverse_append]
    rfl

/-- **The first of the messages awaited is the next one received**, and the others are awaited
then. -/
theorem Awaits.receive {a : α} {unread : List α} (h : c.Awaits receiver (a :: unread)) :
    (c.receive receiver).1 = .message a ∧ (c.receive receiver).2.Awaits receiver unread ∧
      (c.receive receiver).2.capacity = c.capacity := by
  obtain ⟨hcount, hsent, hroom, hkept⟩ := h
  rw [List.length_cons] at hcount hsent hroom hkept
  -- the oldest message awaited is the last of those kept that are awaited
  have hnext : c.kept[unread.length]? = some a := by
    have htake := congrArg (fun as => as[unread.length]?) hkept
    simp only [List.getElem?_take_of_lt (Nat.lt_succ_self _), List.reverse_cons] at htake
    rw [htake, List.getElem?_append_right (List.length_reverse ..).le, List.length_reverse,
      Nat.sub_self]
    rfl
  have hplace : c.sent - (c.sent - (unread.length + 1)) - 1 = unread.length := by omega
  have hreceive : c.receive receiver =
      (.message a, c.advance receiver (c.sent - (unread.length + 1) + 1)) := by
    rw [Broadcast.receive, hcount]
    simp only [hplace, hnext]
    rw [if_neg (by omega), if_neg (by omega)]
  rw [hreceive]
  refine ⟨rfl, ⟨?_, Nat.le_of_succ_le hsent, Nat.le_of_succ_le hroom, ?_⟩, rfl⟩
  · show (c.receivers.insert receiver _).get? receiver = some (c.sent - unread.length)
    rw [OrderedMap.get?_insert, if_pos rfl]
    congr 1
    omega
  · have hrest := congrArg (List.take unread.length) hkept
    rw [List.take_take, Nat.min_eq_left (Nat.le_succ _), List.reverse_cons,
      List.take_left' (List.length_reverse ..)] at hrest
    exact hrest

/-- A receiver that awaits no message gets none. -/
theorem Awaits.receive_nil (h : c.Awaits receiver []) : c.receive receiver = (.empty, c) := by
  have hcount := h.1
  rw [List.length_nil, Nat.sub_zero] at hcount
  rw [Broadcast.receive, hcount]
  simp only
  rw [if_neg (by omega), if_pos (Nat.le_refl _)]

end Broadcast

end SubtitleCoverage
